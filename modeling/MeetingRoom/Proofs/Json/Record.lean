/-
  MeetingRoom/Proofs/Json/Record.lean
  ===================================
  **What becomes of an object that is read as a record.**

  The reader visits the members of an object one after the other and looks at
  the fields afterwards.  Seen from outside, only what stands under the names of
  the fields matters: the problem that is reported is that of the flawed member
  with the least name, then that of the first missing field
  (`Fields.problem?_read_object`), and without any the record holds what was read
  under each name (`Fields.holds_of_read_object`).  So two objects that have the
  same flaws lead to the same problem (`Fields.problem?_read_object_congr`).
-/
import MeetingRoom.Proofs.Json.ReadBack
import Mathlib.Data.List.Forall2

namespace MeetingRoom.Json

/-! ### Problems -/

/-- The problem of an outcome, if it is one. -/
def problem? {ε α : Type} : Except ε α → Option ε
  | .error why => some why
  | .ok _ => none

section Problems

variable {ε α β : Type} {x : Except ε α}

@[simp] theorem problem?_error (why : ε) : problem? (.error why : Except ε α) = some why := rfl

@[simp] theorem problem?_ok (a : α) : problem? (.ok a : Except ε α) = none := rfl

@[simp] theorem problem?_map (f : α → β) : problem? (x.map f) = problem? x := by
  cases x <;> rfl

theorem problem?_eq_none_iff : problem? x = none ↔ ∃ a, x = .ok a := by
  cases x <;> simp

theorem problem?_eq_some_iff {why : ε} : problem? x = some why ↔ x = .error why := by
  cases x <;> simp

theorem exists_map_eq_ok_iff {f : α → β} : (∃ b, x.map f = .ok b) ↔ ∃ a, x = .ok a := by
  cases x <;> simp [Except.map]

theorem problem?_bind (f : α → Except ε β) :
    problem? (x >>= f) = (problem? x).or (match x with
      | .ok a => problem? (f a)
      | .error _ => none) := by
  cases x <;> simp [bind, Except.bind]

end Problems

/-! ### Lists of outcomes -/

section Lists

variable {ε α β : Type} {f : α → Except ε β}

theorem mapM_eq_ok_iff {as : List α} {bs : List β} :
    as.mapM f = .ok bs ↔ List.Forall₂ (fun a b => f a = .ok b) as bs := by
  induction as generalizing bs with
  | nil => simp [pure, Except.pure, eq_comm]
  | cons a rest ih =>
    rw [List.mapM_cons, bind_eq_ok, List.forall₂_cons_left_iff]
    refine exists_congr fun b => ?_
    rw [bind_eq_ok]
    constructor
    · rintro ⟨hb, more, hmore, h⟩
      exact ⟨more, hb, ih.1 hmore, (Except.ok.inj h).symm⟩
    · rintro ⟨more, hb, hmore, rfl⟩
      exact ⟨hb, more, ih.2 hmore, rfl⟩

theorem exists_mapM_eq_ok_iff {as : List α} :
    (∃ bs, as.mapM f = .ok bs) ↔ ∀ a ∈ as, ∃ b, f a = .ok b := by
  simp only [mapM_eq_ok_iff]
  induction as with
  | nil => simp
  | cons a rest ih =>
    simp only [List.forall₂_cons_left_iff, List.forall_mem_cons, ← ih]
    constructor
    · rintro ⟨_, b, bs, hb, hbs, rfl⟩
      exact ⟨⟨b, hb⟩, bs, hbs⟩
    · rintro ⟨⟨b, hb⟩, bs, hbs⟩
      exact ⟨_, b, bs, hb, hbs, rfl⟩

end Lists

/-! ### Whole numbers within bounds -/

theorem Number.eq_ofWord32_of_toWord32 {number : Number} {n : UInt32}
    (h : number.toWord32 = .ok n) : number = .ofWord32 n := by
  cases number with
  | whole k fits =>
    rw [toWord32] at h
    split at h
    · rename_i hbounds
      obtain rfl := Except.ok.inj h
      have hsize : UInt32.size = 4294967296 := rfl
      have hk : ((UInt32.ofNat k.toNat).toNat : Int) = k := by
        rw [UInt32.toNat_ofNat_of_lt' (by omega)]
        omega
      simp only [ofWord32, hk]
    · cases h
  | double x => cases h

theorem Number.eq_ofInt64_of_toInt64 {number : Number} {n : Int64}
    (h : number.toInt64 = .ok n) : number = .ofInt64 n := by
  cases number with
  | whole k fits =>
    rw [toInt64] at h
    split at h
    · rename_i hbounds
      obtain rfl := Except.ok.inj h
      have hk : (Int64.ofInt k).toInt = k := Int64.toInt_ofInt_of_le (by omega) (by omega)
      simp only [ofInt64, hk]
    · cases h
  | double x => cases h

/-! ### The least name with a property -/

theorem Entries.lt_trichotomy (a b : String) : a < b ∨ a = b ∨ b < a := by
  by_cases hlt : a < b
  · exact .inl hlt
  · by_cases heq : a = b
    · exact .inr (.inl heq)
    · exact .inr (.inr (Entries.lt_of_not_lt_of_ne hlt heq))

theorem Dictionary.find?_eq_some_iff {α : Type} {d : Dictionary α} {name : String} {value : α} :
    d.find? name = some value ↔ (name, value) ∈ d.entries :=
  ⟨Entries.mem_of_find?_eq_some, Entries.find?_eq_some_of_mem d.ascending⟩

/-- The first entry with a result is the one under the least name that has one. -/
theorem findSome?_entries_eq_some {α β : Type} {d : Dictionary α} {f : String → α → Option β}
    {result : β} (h : d.entries.findSome? (fun e => f e.1 e.2) = some result) :
    ∃ name, (d.find? name).bind (f name) = some result ∧
      ∀ other, other < name → (d.find? other).bind (f other) = none := by
  obtain ⟨before, e, after, hsplit, hresult, hbefore⟩ := List.findSome?_eq_some_iff.1 h
  have hascending := d.ascending
  rw [hsplit] at hascending
  obtain ⟨-, hafter, -⟩ := List.pairwise_append.1 hascending
  have hmem : (e.1, e.2) ∈ d.entries := by
    rw [hsplit]
    exact List.mem_append_right _ List.mem_cons_self
  refine ⟨e.1, by rw [Dictionary.find?_eq_some_iff.2 hmem]; exact hresult, ?_⟩
  intro other hless
  cases hfind : d.find? other with
  | none => rfl
  | some value =>
    have hother := Dictionary.find?_eq_some_iff.1 hfind
    rw [hsplit] at hother
    rcases List.mem_append.1 hother with hother | hother
    · exact hbefore _ hother
    · -- an entry from `e` on has no lesser name
      rcases List.mem_cons.1 hother with rfl | hother
      · exact absurd hless (String.lt_irrefl _)
      · have hgreater := (List.pairwise_cons.1 hafter).1 _ hother
        exact absurd (String.lt_trans hgreater hless) (String.lt_irrefl _)

theorem findSome?_entries_eq_none {α β : Type} {d : Dictionary α} {f : String → α → Option β} :
    d.entries.findSome? (fun e => f e.1 e.2) = none ↔
      ∀ name, (d.find? name).bind (f name) = none := by
  rw [List.findSome?_eq_none_iff]
  constructor
  · intro h name
    cases hfind : d.find? name with
    | none => rfl
    | some value => exact h _ (Dictionary.find?_eq_some_iff.1 hfind)
  · intro h e he
    have hfind := h e.1
    rwa [Dictionary.find?_eq_some_iff.2 he] at hfind

/-- What is found first depends on what each name yields alone. -/
theorem findSome?_entries_congr {α β : Type} {d e : Dictionary α} {f : String → α → Option β}
    (h : ∀ name, (d.find? name).bind (f name) = (e.find? name).bind (f name)) :
    d.entries.findSome? (fun m => f m.1 m.2) = e.entries.findSome? (fun m => f m.1 m.2) := by
  cases hd : d.entries.findSome? (fun m => f m.1 m.2) with
  | none =>
    have hnone := findSome?_entries_eq_none.1 hd
    exact (findSome?_entries_eq_none.2 fun name => (h name).symm.trans (hnone name)).symm
  | some result =>
    obtain ⟨name, hname, hleast⟩ := findSome?_entries_eq_some hd
    cases he : e.entries.findSome? (fun m => f m.1 m.2) with
    | none =>
      rw [h, findSome?_entries_eq_none.1 he name] at hname
      cases hname
    | some result' =>
      obtain ⟨name', hname', hleast'⟩ := findSome?_entries_eq_some he
      -- each of the two names is not less than the other
      rcases Entries.lt_trichotomy name name' with hlt | rfl | hlt
      · rw [h, hleast' name hlt] at hname
        cases hname
      · rw [← h, hname] at hname'
        exact hname'
      · rw [← h, hleast name' hlt] at hname'
        cases hname'

/-- Nothing is there, or null. -/
def Vacant (found : Option Value) : Prop := found = none ∨ found = some .null

namespace Fields

/-! ### Flawed members and missing fields -/

/-- The problem with a member, if a field has its name and does not take it. -/
def flaw? : Fields → String → Value → Option Problem
  | .nil, _, _ => none
  | .cons name _ shape rest, key, v =>
    if name = key then problem? (shape.read v) else rest.flaw? key v

/-- The problem of the first required field in declared order that is not there. -/
def missing? (look : String → Option Value) : Fields → Option Problem
  | .nil => none
  | .cons name presence _ rest =>
    if presence = .required ∧ look name = none then some (.missingField name)
    else rest.missing? look

theorem problem?_assign (key : String) (v : Value) : (fields : Fields) → (draft : fields.Draft) →
    problem? (fields.assign key v draft) = fields.flaw? key v
  | .nil, _ => rfl
  | .cons name _ shape rest, (found, draft) => by
    rw [assign, flaw?]
    by_cases h : name = key
    · rw [if_pos h, if_pos h, problem?_map]
    · rw [if_neg h, if_neg h, problem?_map, rest.problem?_assign key v draft]

theorem problem?_foldlM_assign (fields : Fields) (members : List (String × Value))
    (draft : fields.Draft) :
    problem? (members.foldlM (fun draft m => fields.assign m.1 m.2 draft) draft) =
      members.findSome? fun m => fields.flaw? m.1 m.2 := by
  induction members generalizing draft with
  | nil => rfl
  | cons m rest ih =>
    rw [List.foldlM_cons, List.findSome?_cons, ← fields.problem?_assign m.1 m.2 draft]
    cases h : fields.assign m.1 m.2 draft with
    | error why => rfl
    | ok draft' => exact ih draft'

theorem problem?_settle {look : String → Option Value} : {fields : Fields} →
    {draft : fields.Draft} → fields.Gathers look draft →
    problem? (fields.settle draft) = fields.missing? look
  | .nil, _, _ => rfl
  | .cons name presence shape rest, (found, draft), ⟨hfound, hrest⟩ => by
    have hmore := problem?_settle hrest
    rw [missing?]
    cases presence with
    | required =>
      cases found with
      | none =>
        have hlook : look name = none := by simpa using hfound
        rw [if_pos ⟨rfl, hlook⟩]
        rfl
      | some x =>
        have hlook : look name ≠ none := by
          intro hlook
          rw [hlook] at hfound
          cases hfound
        rw [if_neg fun h => hlook h.2, ← hmore, settle, problem?_map]
    | optional | optionalByName =>
      rw [if_neg (by simp), ← hmore, settle, problem?_map]

/-! ### Objects -/

theorem read_object_eq (fields : Fields) (name : String) (members : List (String × Value)) :
    (Shape.record name fields).read (.object members) =
      (members.foldlM (fun draft m => fields.assign m.1 m.2 draft) fields.blank >>=
        fields.settle) := by
  rw [Shape.read]

/-- **The problem with an object**: that of its first flawed member, or else that
    of the first field that is missing. -/
theorem problem?_read_object {fields : Fields} (hdistinct : fields.names.Nodup) (name : String)
    (d : Dictionary Value) :
    problem? ((Shape.record name fields).read (.object d.entries)) =
      (d.entries.findSome? fun m => fields.flaw? m.1 m.2).or (fields.missing? d.find?) := by
  rw [read_object_eq, problem?_bind, problem?_foldlM_assign]
  cases hfold : d.entries.foldlM (fun draft m => fields.assign m.1 m.2 draft) fields.blank with
  | error why =>
    have hflaw := fields.problem?_foldlM_assign d.entries fields.blank
    rw [hfold] at hflaw
    rw [← hflaw]
    rfl
  | ok draft =>
    have hgathers := gathers_foldlM hdistinct hfold
    rw [Dictionary.ofList_entries] at hgathers
    rw [← problem?_settle hgathers]

/-- Objects whose members have the same flaws lead to the same problem. -/
theorem problem?_read_object_congr {fields : Fields} (hdistinct : fields.names.Nodup)
    (name : String) {d e : Dictionary Value}
    (hflaw : ∀ key, (d.find? key).bind (fields.flaw? key) = (e.find? key).bind (fields.flaw? key))
    (hmissing : fields.missing? d.find? = fields.missing? e.find?) :
    problem? ((Shape.record name fields).read (.object d.entries)) =
      problem? ((Shape.record name fields).read (.object e.entries)) := by
  rw [problem?_read_object hdistinct, problem?_read_object hdistinct,
    findSome?_entries_congr hflaw, hmissing]

/-- Each required field is there, and each member under the name of a field is
    taken by the field. -/
def Fits (look : String → Option Value) : Fields → Prop
  | .nil => True
  | .cons name presence shape rest =>
    ((presence = .required → look name ≠ none) ∧
      ∀ v, look name = some v → ∃ x, shape.read v = .ok x) ∧ rest.Fits look

theorem flaw?_of_not_mem_names {key : String} : {fields : Fields} → key ∉ fields.names →
    (v : Value) → fields.flaw? key v = none
  | .nil, _, _ => rfl
  | .cons name _ shape rest, h, v => by
    obtain ⟨hname, hrest⟩ := List.ne_and_not_mem_of_not_mem_cons h
    rw [flaw?, if_neg hname.symm, flaw?_of_not_mem_names hrest]

theorem fits_iff {look : String → Option Value} : {fields : Fields} → fields.names.Nodup →
    (fields.Fits look ↔
      (∀ key, (look key).bind (fields.flaw? key) = none) ∧ fields.missing? look = none)
  | .nil, _ => by
    refine ⟨fun _ => ⟨fun key => ?_, rfl⟩, fun _ => trivial⟩
    cases look key <;> rfl
  | .cons name presence shape rest, hdistinct => by
    obtain ⟨hname, hdistinct⟩ := List.nodup_cons.1 hdistinct
    rw [Fits, fits_iff hdistinct, missing?]
    constructor
    · rintro ⟨⟨hpresent, htaken⟩, hflaw, hmissing⟩
      refine ⟨fun key => ?_, ?_⟩
      · cases hlook : look key with
        | none => rfl
        | some v =>
          rw [Option.bind_some, flaw?]
          split
          · rename_i heq
            exact problem?_eq_none_iff.2 (htaken v (heq ▸ hlook))
          · have hkey := hflaw key
            rwa [hlook] at hkey
      · rw [if_neg fun h => hpresent h.1 h.2, hmissing]
    · rintro ⟨hflaw, hmissing⟩
      split at hmissing
      · cases hmissing
      · rename_i hpresent
        refine ⟨⟨fun hrequired hlook => hpresent ⟨hrequired, hlook⟩, fun v hlook => ?_⟩,
          fun key => ?_, hmissing⟩
        · have hkey := hflaw name
          rw [hlook, Option.bind_some, flaw?, if_pos rfl] at hkey
          exact problem?_eq_none_iff.1 hkey
        · have hkey := hflaw key
          cases hlook : look key with
          | none => rfl
          | some v =>
            rw [hlook, Option.bind_some, flaw?] at hkey
            rw [Option.bind_some]
            split at hkey
            · rename_i heq
              exact flaw?_of_not_mem_names (heq ▸ hname) v
            · exact hkey

/-- **Which objects are read.** -/
theorem exists_read_object_iff {fields : Fields} (hdistinct : fields.names.Nodup) (name : String)
    (d : Dictionary Value) :
    (∃ x, (Shape.record name fields).read (.object d.entries) = .ok x) ↔ fields.Fits d.find? := by
  rw [← problem?_eq_none_iff, problem?_read_object hdistinct, Option.or_eq_none_iff,
    findSome?_entries_eq_none, fits_iff hdistinct]

/-- What the fields hold, given what stands under each name. -/
def Holds (look : String → Option Value) : (fields : Fields) → fields.Denote → Prop
  | .nil, _ => True
  | .cons name presence shape rest, (x, more) =>
    (look name).map shape.read = (presence.given x).map .ok ∧ rest.Holds look more

theorem holds_of_settle {look : String → Option Value} : {fields : Fields} →
    {draft : fields.Draft} → {x : fields.Denote} → fields.Gathers look draft →
    fields.settle draft = .ok x → fields.Holds look x
  | .nil, _, _, _, _ => trivial
  | .cons name presence shape rest, (found, draft), (x, more), ⟨hfound, hrest⟩, hsettle => by
    obtain ⟨hgiven, hmore⟩ := settle_cons_eq_ok.1 hsettle
    exact ⟨hgiven ▸ hfound, holds_of_settle hrest hmore⟩

/-- **What is read of an object** is what is read under the name of each field. -/
theorem holds_of_read_object {fields : Fields} (hdistinct : fields.names.Nodup) {name : String}
    {d : Dictionary Value} {x : fields.Denote}
    (h : (Shape.record name fields).read (.object d.entries) = .ok x) :
    fields.Holds d.find? x := by
  rw [read_object_eq] at h
  obtain ⟨draft, hfold, hsettle⟩ := bind_eq_ok.1 h
  have hgathers := gathers_foldlM hdistinct hfold
  rw [Dictionary.ofList_entries] at hgathers
  exact holds_of_settle hgathers hsettle

end Fields

/-! ### Plain values -/

namespace Shape

variable {v : Value}

theorem read_text_eq_ok_iff {s : String} : Shape.text.read v = .ok s ↔ v = .text s := by
  constructor
  · intro h
    cases v with
    | text t => exact congrArg Value.text (Except.ok.inj h)
    | null | flag _ | number _ | list _ | object _ => cases h
  · rintro rfl
    rfl

theorem read_flag_eq_ok_iff {b : Bool} : Shape.flag.read v = .ok b ↔ v = .flag b := by
  constructor
  · intro h
    cases v with
    | flag c => exact congrArg Value.flag (Except.ok.inj h)
    | null | number _ | text _ | list _ | object _ => cases h
  · rintro rfl
    rfl

theorem read_double_eq_ok_iff {x : Decimal.Double} :
    Shape.double.read v = .ok x ↔ ∃ n, v = .number n ∧ x = n.toDouble := by
  constructor
  · intro h
    cases v with
    | number n => exact ⟨n, rfl, (Except.ok.inj h).symm⟩
    | null | flag _ | text _ | list _ | object _ => cases h
  · rintro ⟨n, rfl, rfl⟩
    rfl

theorem read_dictionary_eq_ok_iff {d : Dictionary Value} :
    Shape.dictionary.read v = .ok d ↔ ∃ members, v = .object members ∧ d = .ofList members := by
  constructor
  · intro h
    cases v with
    | object members => exact ⟨members, rfl, (Except.ok.inj h).symm⟩
    | null | flag _ | number _ | text _ | list _ => cases h
  · rintro ⟨members, rfl, rfl⟩
    rfl

theorem read_word32_eq_ok_iff {n : UInt32} :
    Shape.word32.read v = .ok n ↔ v = .number (.ofWord32 n) := by
  constructor
  · intro h
    cases v with
    | number number => exact congrArg Value.number (Number.eq_ofWord32_of_toWord32 h)
    | null | flag _ | text _ | list _ | object _ => cases h
  · rintro rfl
    exact Number.toWord32_ofWord32 n

theorem read_int64_eq_ok_iff {n : Int64} :
    Shape.int64.read v = .ok n ↔ v = .number (.ofInt64 n) := by
  constructor
  · intro h
    cases v with
    | number number => exact congrArg Value.number (Number.eq_ofInt64_of_toInt64 h)
    | null | flag _ | text _ | list _ | object _ => cases h
  · rintro rfl
    exact Number.toInt64_ofInt64 n

theorem read_listOf_eq_ok_iff {item : Shape} {xs : List item.Denote} :
    (Shape.listOf item).read v = .ok xs ↔
      ∃ vs, v = .list vs ∧ List.Forall₂ (fun w x => item.read w = .ok x) vs xs := by
  constructor
  · intro h
    cases v with
    | list vs => exact ⟨vs, rfl, mapM_eq_ok_iff.1 h⟩
    | null | flag _ | number _ | text _ | object _ => cases h
  · rintro ⟨vs, rfl, hvs⟩
    exact mapM_eq_ok_iff.2 hvs

/-! ### Which values are taken -/

theorem exists_read_word32_iff : (∃ n, Shape.word32.read v = .ok n) ↔
    ∃ n fits, v = .number (.whole n fits) ∧ 0 ≤ n ∧ n < 0x100000000 := by
  constructor
  · rintro ⟨n, h⟩
    have hlt := n.toNat_lt
    exact ⟨n.toNat, _, read_word32_eq_ok_iff.1 h, by omega, by omega⟩
  · rintro ⟨n, fits, rfl, hbounds⟩
    exact ⟨_, if_pos hbounds⟩

theorem exists_read_int64_iff : (∃ n, Shape.int64.read v = .ok n) ↔
    ∃ n fits, v = .number (.whole n fits) ∧ -0x8000000000000000 ≤ n ∧ n < 0x8000000000000000 := by
  constructor
  · rintro ⟨n, h⟩
    have hle := n.le_toInt
    have hlt := n.toInt_lt
    exact ⟨n.toInt, _, read_int64_eq_ok_iff.1 h, by omega, by omega⟩
  · rintro ⟨n, fits, rfl, hbounds⟩
    exact ⟨_, if_pos hbounds⟩

theorem exists_read_double_iff : (∃ x, Shape.double.read v = .ok x) ↔ ∃ n, v = .number n := by
  constructor
  · rintro ⟨x, h⟩
    obtain ⟨n, hn, _⟩ := read_double_eq_ok_iff.1 h
    exact ⟨n, hn⟩
  · rintro ⟨n, rfl⟩
    exact ⟨_, rfl⟩

theorem exists_read_dictionary_iff :
    (∃ d, Shape.dictionary.read v = .ok d) ↔ ∃ members, v = .object members := by
  constructor
  · rintro ⟨d, h⟩
    obtain ⟨members, hmembers, _⟩ := read_dictionary_eq_ok_iff.1 h
    exact ⟨members, hmembers⟩
  · rintro ⟨members, rfl⟩
    exact ⟨_, rfl⟩

theorem exists_read_listOf_iff {item : Shape} :
    (∃ xs, (Shape.listOf item).read v = .ok xs) ↔
      ∃ vs, v = .list vs ∧ ∀ w ∈ vs, ∃ x, item.read w = .ok x := by
  constructor
  · rintro ⟨xs, h⟩
    obtain ⟨vs, rfl, _⟩ := read_listOf_eq_ok_iff.1 h
    exact ⟨vs, rfl, exists_mapM_eq_ok_iff.1 ⟨xs, h⟩⟩
  · rintro ⟨vs, rfl, hvs⟩
    exact exists_mapM_eq_ok_iff.2 hvs

end Shape

end MeetingRoom.Json
