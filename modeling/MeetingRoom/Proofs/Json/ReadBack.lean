/-
  MeetingRoom/Proofs/Json/ReadBack.lean
  =====================================
  **What is written is read back.**

  A shape is written and read by two functions that know nothing of each other.
  They fit if values can be told apart by what is written of them: the names of
  a choice and of the fields of a record must be distinct, and what may be
  absent must not be written as null itself.  `Shape.faithful` checks this, and
  is evaluated once for each type; what follows from it is shown once for all
  shapes (`Shape.read_write`, `Codec.stable_of_faithful`).

  A record is written with its members in the order of their names, and read
  into a draft member by member.  The order does not matter for the draft, only
  which member is found under which name (`Fields.Gathers`).
-/
import MeetingRoom.Json.Codec
import Mathlib.Data.List.Nodup
import Mathlib.Data.List.DropRight

namespace MeetingRoom.Json

/-! ### Outcomes -/

theorem bind_eq_ok {ε α β : Type} {x : Except ε α} {f : α → Except ε β} {b : β} :
    x >>= f = .ok b ↔ ∃ a, x = .ok a ∧ f a = .ok b := by
  cases x <;> simp [bind, Except.bind]

theorem map_eq_ok {ε α β : Type} {x : Except ε α} {f : α → β} {b : β} :
    x.map f = .ok b ↔ ∃ a, x = .ok a ∧ f a = b := by
  cases x <;> simp [Except.map]

theorem mapError_eq_ok {ε ε' α : Type} {x : Except ε α} {f : ε → ε'} {a : α} :
    x.mapError f = .ok a ↔ x = .ok a := by
  cases x <;> simp [Except.mapError]

/-! ### Shapes that keep values apart -/

def Shape.admitsNull : Shape → Bool
  | .anything | .nullable _ => true
  | _ => false

mutual

/-- Different values are written differently under the shape. -/
def Shape.faithful : Shape → Bool
  | .choice names => decide names.Nodup
  | .nullable inner => !inner.admitsNull && inner.faithful
  | .listOf item => item.faithful
  | .record _ fields => fields.faithful
  | _ => true

/-- Each field is faithful and has a name of its own. -/
def Fields.faithful : Fields → Bool
  | .nil => true
  | .cons name _ shape rest => !rest.names.contains name && shape.faithful && rest.faithful

end

theorem Fields.nodup_names_of_faithful : (fields : Fields) → fields.faithful = true →
    fields.names.Nodup
  | .nil, _ => List.nodup_nil
  | .cons name _ shape rest, h => by
    simp only [faithful, Bool.and_eq_true, Bool.not_eq_true', List.contains_eq_mem,
      decide_eq_false_iff_not] at h
    exact List.nodup_cons.2 ⟨h.1.1, rest.nodup_names_of_faithful h.2⟩

def Shape.ReadsBack (shape : Shape) : Prop := ∀ x, shape.read (shape.write x) = .ok x

def Fields.ReadBack : Fields → Prop
  | .nil => True
  | .cons _ _ shape rest => shape.ReadsBack ∧ rest.ReadBack

/-! ### Numbers and choices -/

theorem Number.toWord32_ofWord32 (n : UInt32) : (Number.ofWord32 n).toWord32 = .ok n := by
  have hlt := n.toNat_lt
  simp only [ofWord32, toWord32, Int.toNat_natCast, UInt32.ofNat_toNat]
  exact if_pos ⟨by omega, by omega⟩

theorem Number.toWord64_ofWord64 (n : UInt64) : (Number.ofWord64 n).toWord64 = .ok n := by
  have hlt := n.toNat_lt
  simp only [ofWord64, toWord64, Int.toNat_natCast, UInt64.ofNat_toNat]
  exact if_pos ⟨by omega, by omega⟩

theorem Number.toInt64_ofInt64 (n : Int64) : (Number.ofInt64 n).toInt64 = .ok n := by
  have hle := n.le_toInt
  have hlt := n.toInt_lt
  simp only [ofInt64, toInt64, Int64.ofInt_toInt]
  exact if_pos ⟨by omega, by omega⟩

theorem choiceIndex_get {names : List String} (h : names.Nodup) (i : Fin names.length) :
    choiceIndex names (names.get i) = .ok i := by
  have hfound : names.findFinIdx? (· == names.get i) = some i := by
    rw [List.findFinIdx?_eq_some_iff]
    refine ⟨by simp, ?_⟩
    intro j hji heq
    have hget : names.get j = names.get i := by simpa using heq
    exact absurd (List.nodup_iff_injective_get.1 h hget) (Fin.ne_of_lt hji)
  rw [choiceIndex, hfound]

/-! ### Null and lists -/

theorem Shape.write_ne_null {shape : Shape} (h : shape.admitsNull = false) (x : shape.Denote) :
    shape.write x ≠ .null := by
  cases shape with
  | anything | nullable _ => cases h
  | text | flag | word32 | word64 | int64 | double | dictionary | choice _ | listOf _
  | record _ _ =>
    simp [write, Value.ofMembers]

theorem Shape.read_nullable_of_ne_null {inner : Shape} {v : Value} (h : v ≠ .null) :
    (Shape.nullable inner).read v = (inner.read v).map some := by
  cases v with
  | null => exact absurd rfl h
  | flag _ | number _ | text _ | list _ | object _ => rfl

theorem Shape.mapM_read_write {item : Shape} (h : item.ReadsBack) (xs : List item.Denote) :
    (xs.map item.write).mapM item.read = .ok xs := by
  induction xs with
  | nil => rfl
  | cons x rest ih =>
    rw [List.map_cons, List.mapM_cons, h x, ih]
    rfl

/-! ### Fields -/

/-- The value of a field, if it is given at all. -/
def Presence.given {α : Type} : (presence : Presence) → presence.Holds α → Option α
  | .required, x => some x
  | .optional, x => x
  | .optionalByName, x => x

namespace Fields

theorem write_cons (name : String) (presence : Presence) (shape : Shape) (rest : Fields)
    (x : presence.Holds shape.Denote) (more : rest.Denote) :
    (Fields.cons name presence shape rest).write (x, more) =
      ((presence.given x).map fun y => (name, shape.write y)).toList ++ rest.write more := by
  cases presence with
  | required => rfl
  | optional | optionalByName => cases x <;> rfl

theorem eq_or_mem_of_mem_write_cons {name : String} {presence : Presence} {shape : Shape}
    {rest : Fields} {x : presence.Holds shape.Denote} {more : rest.Denote} {m : String × Value}
    (h : m ∈ (Fields.cons name presence shape rest).write (x, more)) :
    (∃ y, m = (name, shape.write y)) ∨ m ∈ rest.write more := by
  rw [write_cons] at h
  rcases List.mem_append.1 h with h | h
  · obtain ⟨y, -, hy⟩ : ∃ y, presence.given x = some y ∧ (name, shape.write y) = m := by
      simpa using h
    exact .inl ⟨y, hy.symm⟩
  · exact .inr h

theorem settle_cons_eq_ok {name : String} {presence : Presence} {shape : Shape} {rest : Fields}
    {found : Option shape.Denote} {draft : rest.Draft}
    {x : presence.Holds shape.Denote} {more : rest.Denote} :
    (Fields.cons name presence shape rest).settle (found, draft) = .ok (x, more) ↔
      presence.given x = found ∧ rest.settle draft = .ok more := by
  cases presence with
  | required =>
    cases found with
    | none => simp [settle, Presence.given]
    | some y =>
      simp only [settle, Presence.given]
      cases rest.settle draft <;> simp [Except.map, eq_comm]
  | optional | optionalByName =>
    simp only [settle, Presence.given]
    cases rest.settle draft <;> simp [Except.map, eq_comm]

/-- Each field is written at most once, and in its place. -/
theorem map_fst_write_sublist : (fields : Fields) → (x : fields.Denote) →
    ((fields.write x).map Prod.fst).Sublist fields.names
  | .nil, _ => List.Sublist.refl _
  | .cons name presence shape rest, (x, more) => by
    rw [write_cons, List.map_append]
    have hrest := rest.map_fst_write_sublist more
    cases presence.given x with
    | none => exact hrest.cons name
    | some y => exact hrest.cons_cons name

theorem mem_names_of_mem_write {fields : Fields} {x : fields.Denote} {m : String × Value}
    (h : m ∈ fields.write x) : m.1 ∈ fields.names :=
  (fields.map_fst_write_sublist x).subset (List.mem_map_of_mem h)

theorem nodup_map_fst_write {fields : Fields} (h : fields.names.Nodup) (x : fields.Denote) :
    ((fields.write x).map Prod.fst).Nodup :=
  (fields.map_fst_write_sublist x).nodup h

/-! ### Drafts -/

/-- The draft holds, for each field, what was read from the member under the
    field's name, and nothing if there is no such member. -/
def Gathers (look : String → Option Value) : (fields : Fields) → fields.Draft → Prop
  | .nil, _ => True
  | .cons name _ shape rest, (found, draft) =>
    (look name).map shape.read = found.map .ok ∧ rest.Gathers look draft

theorem Gathers.congr {look look' : String → Option Value} : {fields : Fields} →
    {draft : fields.Draft} → (∀ name ∈ fields.names, look name = look' name) →
    fields.Gathers look draft → fields.Gathers look' draft
  | .nil, _, _, _ => trivial
  | .cons name _ _ rest, (_, _), hlook, ⟨hfound, hrest⟩ => by
    refine ⟨?_, hrest.congr fun n hn => hlook n (List.mem_cons_of_mem _ hn)⟩
    rw [← hlook name List.mem_cons_self]
    exact hfound

theorem gathers_blank : (fields : Fields) → fields.Gathers (fun _ => none) fields.blank
  | .nil => trivial
  | .cons _ _ _ rest => ⟨rfl, rest.gathers_blank⟩

theorem Gathers.assign {look : String → Option Value} {key : String} {v : Value} :
    {fields : Fields} → {draft draft' : fields.Draft} → fields.names.Nodup →
    fields.Gathers look draft → fields.assign key v draft = .ok draft' →
    fields.Gathers (fun name => if key = name then some v else look name) draft'
  | .nil, _, _, _, _, _ => trivial
  | .cons name _ shape rest, (found, draft), draft', hdistinct, ⟨hfound, hrest⟩, h => by
    obtain ⟨hname, hdistinct⟩ := List.nodup_cons.1 hdistinct
    rw [Fields.assign] at h
    -- the member replaces what was found under its name before, and touches no other field
    by_cases heq : name = key
    · rw [if_pos heq] at h
      obtain ⟨x, hread, rfl⟩ := map_eq_ok.1 h
      refine ⟨by simp [heq, hread], hrest.congr fun n hn => ?_⟩
      have hne : key ≠ n := fun hkey => hname (by rw [heq, hkey]; exact hn)
      rw [if_neg hne]
    · rw [if_neg heq] at h
      obtain ⟨more, hassign, rfl⟩ := map_eq_ok.1 h
      exact ⟨by simpa [Ne.symm heq] using hfound, hrest.assign hdistinct hassign⟩

/-- The draft after all members of an object: under each name the last counts. -/
theorem gathers_foldlM {fields : Fields} (hdistinct : fields.names.Nodup)
    {members : List (String × Value)} {draft : fields.Draft}
    (h : members.foldlM (fun draft m => fields.assign m.1 m.2 draft) fields.blank = .ok draft) :
    fields.Gathers (Dictionary.ofList members).find? draft := by
  induction members using List.reverseRecOn generalizing draft with
  | nil =>
    obtain rfl : fields.blank = draft := by simpa [pure, Except.pure] using h
    exact fields.gathers_blank
  | append_singleton members m ih =>
    rw [List.foldlM_append] at h
    obtain ⟨before, hfold, hlast⟩ := bind_eq_ok.1 h
    rw [List.foldlM_cons] at hlast
    obtain ⟨after, hassign, hnil⟩ := bind_eq_ok.1 hlast
    obtain rfl : after = draft := Except.ok.inj hnil
    refine ((ih hfold).assign hdistinct hassign).congr fun name _ => ?_
    rw [Dictionary.ofList_concat, Dictionary.find?_insert]

/-- A draft that holds what is read from a written record settles to the record. -/
theorem settle_eq_ok_of_gathers {look : String → Option Value} : {fields : Fields} →
    {draft : fields.Draft} → {x : fields.Denote} → fields.ReadBack → fields.names.Nodup →
    (∀ name ∈ fields.names, look name = Entries.find? name (fields.write x)) →
    fields.Gathers look draft → fields.settle draft = .ok x
  | .nil, _, _, _, _, _, _ => rfl
  | .cons name presence shape rest, (found, draft), (x, more), ⟨hshape, hback⟩, hdistinct, hlook,
      ⟨hfound, hrest⟩ => by
    obtain ⟨hname, hdistinct⟩ := List.nodup_cons.1 hdistinct
    have habsent : Entries.find? name (rest.write more) = none :=
      Entries.find?_eq_none fun m hm heq => hname (heq ▸ mem_names_of_mem_write hm)
    rw [settle_cons_eq_ok]
    constructor
    · -- the member under the field's name is the one that was written for it
      have hwritten := hlook name List.mem_cons_self
      rw [write_cons] at hwritten
      rw [hwritten] at hfound
      cases hgiven : presence.given x with
      | none => simpa [hgiven, habsent, eq_comm] using hfound
      | some y => simpa [hgiven, Entries.find?, hshape y, eq_comm] using hfound
    · refine settle_eq_ok_of_gathers hback hdistinct (fun n hn => ?_) hrest
      have hne : name ≠ n := fun heq => hname (heq ▸ hn)
      rw [hlook n (List.mem_cons_of_mem _ hn), write_cons]
      cases presence.given x <;> simp [Entries.find?, hne]

/-! ### Records -/

/-- A member that was written is accepted, whatever was found before. -/
theorem exists_assign_of_mem_write : {fields : Fields} → {x : fields.Denote} → fields.ReadBack →
    fields.names.Nodup → {m : String × Value} → m ∈ fields.write x → (draft : fields.Draft) →
    ∃ draft', fields.assign m.1 m.2 draft = .ok draft'
  | .nil, _, _, _, _, hm, _ => by cases hm
  | .cons name presence shape rest, (x, more), ⟨hshape, hback⟩, hdistinct, m, hm,
      (found, draft) => by
    obtain ⟨hname, hdistinct⟩ := List.nodup_cons.1 hdistinct
    rcases eq_or_mem_of_mem_write_cons hm with ⟨y, rfl⟩ | hm
    · exact ⟨(some y, draft), by simp [assign, hshape y, Except.map]⟩
    · have hne : name ≠ m.1 := fun heq => hname (heq ▸ mem_names_of_mem_write hm)
      obtain ⟨draft', hassign⟩ := exists_assign_of_mem_write hback hdistinct hm draft
      exact ⟨(found, draft'), by simp [assign, hne, hassign, Except.map]⟩

theorem exists_foldlM_eq_ok {α β ε : Type} {f : β → α → Except ε β} {as : List α}
    (h : ∀ a ∈ as, ∀ b, ∃ b', f b a = .ok b') (b : β) : ∃ b', as.foldlM f b = .ok b' := by
  induction as generalizing b with
  | nil => exact ⟨b, rfl⟩
  | cons a rest ih =>
    obtain ⟨b', hb'⟩ := h a List.mem_cons_self b
    obtain ⟨b'', hb''⟩ := ih (fun x hx => h x (List.mem_cons_of_mem _ hx)) b'
    exact ⟨b'', by rw [List.foldlM_cons, hb']; exact hb''⟩

theorem readsBack_record {fields : Fields} (hback : fields.ReadBack)
    (hdistinct : fields.names.Nodup) (name : String) : (Shape.record name fields).ReadsBack := by
  intro x
  let members := (Dictionary.ofList (fields.write x)).entries
  have hmem : ∀ m ∈ members, m ∈ fields.write x :=
    fun m hm => Entries.mem_of_mem_insertAll_nil hm
  obtain ⟨draft, hfold⟩ : ∃ draft,
      members.foldlM (fun draft m => fields.assign m.1 m.2 draft) fields.blank = .ok draft :=
    exists_foldlM_eq_ok (fun m hm => exists_assign_of_mem_write hback hdistinct (hmem m hm)) _
  have hsettle : fields.settle draft = .ok x := by
    refine settle_eq_ok_of_gathers hback hdistinct (fun n _ => ?_) (gathers_foldlM hdistinct hfold)
    rw [Dictionary.ofList_entries,
      Dictionary.find?_ofList_of_nodup (nodup_map_fst_write hdistinct x)]
  show (members.foldlM (fun draft m => fields.assign m.1 m.2 draft) fields.blank >>=
    fields.settle) = _
  rw [hfold]
  exact hsettle

end Fields

/-! ### Texts in a record -/

namespace Shape

def holdsText : Shape → Bool
  | .text | .nullable .text => true
  | _ => false

def text? : (shape : Shape) → shape.Denote → Option String
  | .text, s => some s
  | .nullable .text, s => s
  | _, _ => none

theorem text?_of_read {shape : Shape} {s : String} {x : shape.Denote}
    (h : shape.holdsText = true) (hread : shape.read (.text s) = .ok x) :
    shape.text? x = some s := by
  unfold holdsText at h
  split at h
  · exact congrArg some (Except.ok.inj hread).symm
  · exact (Except.ok.inj hread).symm
  · cases h

theorem write_of_text? {shape : Shape} {s : String} {x : shape.Denote}
    (h : shape.text? x = some s) : shape.write x = .text s := by
  unfold text? at h
  split at h
  · exact congrArg Value.text (Option.some.inj h)
  · subst h
    rfl
  · cases h

end Shape

namespace Fields

def holdsText (key : String) : Fields → Bool
  | .nil => false
  | .cons name _ shape rest => if name = key then shape.holdsText else rest.holdsText key

/-- The text in the field with a name, if the field is given and is a text. -/
def text? (key : String) : (fields : Fields) → fields.Denote → Option String
  | .nil, _ => none
  | .cons name presence shape rest, (x, more) =>
    if name = key then (presence.given x).bind shape.text? else rest.text? key more

theorem text?_of_gathers {look : String → Option Value} {key s : String}
    (hlook : look key = some (.text s)) : {fields : Fields} → {draft : fields.Draft} →
    {x : fields.Denote} → fields.settle draft = .ok x → fields.Gathers look draft →
    fields.holdsText key = true → fields.text? key x = some s
  | .nil, _, _, _, _, h => by cases h
  | .cons name presence shape rest, (found, draft), (x, more), hsettle, ⟨hfound, hrest⟩, h => by
    obtain ⟨hgiven, hmore⟩ := settle_cons_eq_ok.1 hsettle
    rw [holdsText] at h
    rw [text?]
    by_cases heq : name = key
    · rw [if_pos heq] at h ⊢
      rw [heq, hlook, Option.map_some] at hfound
      obtain ⟨y, rfl, hread⟩ := Option.map_eq_some_iff.1 hfound.symm
      rw [hgiven]
      exact Shape.text?_of_read h hread.symm
    · rw [if_neg heq] at h ⊢
      exact text?_of_gathers hlook hmore hrest h

theorem text?_of_read_object {fields : Fields} (hdistinct : fields.names.Nodup)
    {name key s : String} {members : List (String × Value)} {x : fields.Denote}
    (h : fields.holdsText key = true)
    (hread : (Shape.record name fields).read (.object members) = .ok x)
    (hmember : (Dictionary.ofList members).find? key = some (.text s)) :
    fields.text? key x = some s := by
  obtain ⟨draft, hfold, hsettle⟩ := bind_eq_ok.1 hread
  exact text?_of_gathers hmember hsettle (gathers_foldlM hdistinct hfold) h

theorem mem_write_of_text? {key s : String} : {fields : Fields} → {x : fields.Denote} →
    fields.text? key x = some s → (key, .text s) ∈ fields.write x
  | .nil, _, h => by cases h
  | .cons name presence shape rest, (x, more), h => by
    rw [text?] at h
    rw [write_cons]
    by_cases heq : name = key
    · rw [if_pos heq] at h
      obtain ⟨y, hgiven, hy⟩ := Option.bind_eq_some_iff.1 h
      simp [hgiven, heq, Shape.write_of_text? hy]
    · rw [if_neg heq] at h
      exact List.mem_append_right _ (mem_write_of_text? h)

theorem member?_write_of_text? {fields : Fields} (hdistinct : fields.names.Nodup)
    {name key s : String} {x : fields.Denote} (h : fields.text? key x = some s) :
    ((Shape.record name fields).write x).member? key = some (.text s) := by
  show (Dictionary.ofList (fields.write x)).find? key = some (.text s)
  rw [Dictionary.find?_ofList_of_nodup (nodup_map_fst_write hdistinct x)]
  exact Entries.find?_eq_some_of_mem_of_nodup (nodup_map_fst_write hdistinct x)
    (mem_write_of_text? h)

end Fields

/-! ### All shapes -/

mutual

/-- **What is written is read back.** -/
theorem Shape.read_write : (shape : Shape) → shape.faithful = true → shape.ReadsBack
  | .text, _ | .flag, _ | .double, _ | .anything, _ => fun _ => rfl
  | .word32, _ => Number.toWord32_ofWord32
  | .word64, _ => Number.toWord64_ofWord64
  | .int64, _ => Number.toInt64_ofInt64
  | .dictionary, _ => fun d => congrArg Except.ok d.ofList_entries
  | .choice _, h => choiceIndex_get (of_decide_eq_true h)
  | .nullable inner, h => by
    simp only [Shape.faithful, Bool.and_eq_true, Bool.not_eq_true'] at h
    intro x
    cases x with
    | none => rfl
    | some x =>
      show (Shape.nullable inner).read (inner.write x) = _
      rw [Shape.read_nullable_of_ne_null (Shape.write_ne_null h.1 x), inner.read_write h.2 x]
      rfl
  | .listOf item, h => Shape.mapM_read_write (item.read_write h)
  | .record name fields, h =>
    Fields.readsBack_record (fields.readBack_of_faithful h) (fields.nodup_names_of_faithful h) name

theorem Fields.readBack_of_faithful : (fields : Fields) → fields.faithful = true → fields.ReadBack
  | .nil, _ => trivial
  | .cons _ _ shape rest, h => by
    simp only [Fields.faithful, Bool.and_eq_true] at h
    exact ⟨shape.read_write h.1.2, rest.readBack_of_faithful h.2⟩

end

/-- Each value of the type is read back, once it is written. -/
def Codec.Stable {α : Type} (codec : Codec α) : Prop :=
  ∀ x, codec.read (codec.write x) = .ok x

theorem Codec.stable_of_faithful {α : Type} {codec : Codec α}
    (h : codec.shape.faithful = true) : codec.Stable := by
  intro x
  rw [read, write, codec.shape.read_write h (codec.toData x)]
  exact congrArg Except.ok (codec.ofData_toData x)

end MeetingRoom.Json
