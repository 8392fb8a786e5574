/-
  MeetingRoom/Dictionary.lean
  ===========================
  **Maps from names to values, kept in the order of the names.**

  Constraints of a plan, arguments of a step, price targets and the live steps
  of a session are maps from names.  A map has no order of its own, and what
  is shown of it is ordered by name; so the entries are kept ascending, and
  two maps with the same entries are equal.

  The main statements say what each operation does to `find?`, and that
  `find?` determines the map (`Dictionary.ext_find?`).
-/
namespace MeetingRoom

/-! ### Ascending lists of entries -/

namespace Entries

variable {α : Type}

/-- Names strictly ascend. -/
def Ascending (es : List (String × α)) : Prop :=
  es.Pairwise fun a b => a.1 < b.1

/-- Puts a value under a name at the name's place, replacing the value that
    was there. -/
def insert (name : String) (value : α) : List (String × α) → List (String × α)
  | [] => [(name, value)]
  | (n, v) :: rest =>
    if name < n then (name, value) :: (n, v) :: rest
    else if name = n then (name, value) :: rest
    else (n, v) :: insert name value rest

def find? (name : String) : List (String × α) → Option α
  | [] => none
  | (n, v) :: rest => if n = name then some v else find? name rest

theorem lt_of_not_lt_of_ne {a b : String} (h : ¬ a < b) (hne : a ≠ b) : b < a := by
  have hle : b ≤ a := String.not_lt.1 h
  rcases String.le_total a b with h' | _
  · exact absurd (String.le_antisymm h' hle) hne
  · exact Classical.byContradiction fun hn => hne (String.le_antisymm (String.not_lt.1 hn) hle)

theorem mem_insert {name : String} {value : α} {es : List (String × α)} {e : String × α}
    (h : e ∈ insert name value es) : e = (name, value) ∨ e ∈ es := by
  induction es with
  | nil => simpa [insert] using h
  | cons x rest ih =>
    obtain ⟨n, v⟩ := x
    simp only [insert] at h
    split at h
    · simpa using h
    · split at h
      · rcases List.mem_cons.1 h with h | h
        · exact .inl h
        · exact .inr (List.mem_cons_of_mem _ h)
      · rcases List.mem_cons.1 h with h | h
        · exact .inr (h ▸ List.mem_cons_self)
        · rcases ih h with h | h
          · exact .inl h
          · exact .inr (List.mem_cons_of_mem _ h)

theorem ascending_insert (name : String) (value : α) {es : List (String × α)}
    (h : Ascending es) : Ascending (insert name value es) := by
  induction es with
  | nil => simp [insert, Ascending]
  | cons x rest ih =>
    obtain ⟨n, v⟩ := x
    have hrest := List.pairwise_cons.1 h
    simp only [insert]
    split
    · rename_i hlt
      refine List.pairwise_cons.2 ⟨fun e he => ?_, h⟩
      rcases List.mem_cons.1 he with rfl | he
      · exact hlt
      · exact String.lt_trans hlt (hrest.1 e he)
    · rename_i hlt
      split
      · rename_i heq
        subst heq
        exact List.pairwise_cons.2 ⟨hrest.1, hrest.2⟩
      · rename_i hne
        refine List.pairwise_cons.2 ⟨fun e he => ?_, ih hrest.2⟩
        rcases mem_insert he with rfl | he
        · exact lt_of_not_lt_of_ne hlt hne
        · exact hrest.1 e he

theorem find?_insert (name other : String) (value : α) (es : List (String × α)) :
    find? other (insert name value es) =
      if name = other then some value else find? other es := by
  induction es with
  | nil => simp [insert, find?]
  | cons x rest ih =>
    obtain ⟨n, v⟩ := x
    simp only [insert]
    split
    · simp [find?]
    · split
      · rename_i heq
        subst heq
        by_cases h : name = other <;> simp [find?, h]
      · rename_i hne
        by_cases h : n = other
        · subst h
          simp [find?, hne]
        · simp [find?, h, ih]

theorem find?_eq_none {name : String} {es : List (String × α)}
    (h : ∀ e ∈ es, e.1 ≠ name) : find? name es = none := by
  induction es with
  | nil => rfl
  | cons x rest ih =>
    obtain ⟨n, v⟩ := x
    have hn : n ≠ name := h (n, v) List.mem_cons_self
    simp [find?, hn, ih fun e he => h e (List.mem_cons_of_mem _ he)]

theorem find?_eq_some_of_mem {name : String} {value : α} {es : List (String × α)}
    (hasc : Ascending es) (h : (name, value) ∈ es) : find? name es = some value := by
  induction es with
  | nil => cases h
  | cons x rest ih =>
    obtain ⟨n, v⟩ := x
    have hrest := List.pairwise_cons.1 hasc
    rcases List.mem_cons.1 h with h | h
    · cases h
      simp [find?]
    · have hlt : n < name := hrest.1 _ h
      have hne : n ≠ name := fun he => String.lt_irrefl _ (he ▸ hlt)
      simp [find?, hne, ih hrest.2 h]

theorem mem_of_find?_eq_some {name : String} {value : α} {es : List (String × α)}
    (h : find? name es = some value) : (name, value) ∈ es := by
  induction es with
  | nil => cases h
  | cons x rest ih =>
    obtain ⟨n, v⟩ := x
    simp only [find?] at h
    split at h
    · rename_i heq
      cases h
      subst heq
      exact List.mem_cons_self
    · exact List.mem_cons_of_mem _ (ih h)

/-- Ascending lists with the same entries are equal. -/
theorem ext_of_find? {es fs : List (String × α)} (he : Ascending es) (hf : Ascending fs)
    (h : ∀ name, find? name es = find? name fs) : es = fs := by
  induction es generalizing fs with
  | nil =>
    cases fs with
    | nil => rfl
    | cons y rest =>
      have := h y.1
      simp [find?] at this
  | cons x rest ih =>
    obtain ⟨n, v⟩ := x
    have hrest := List.pairwise_cons.1 he
    cases fs with
    | nil =>
      have := h n
      simp [find?] at this
    | cons y rest' =>
      obtain ⟨m, w⟩ := y
      have hrest' := List.pairwise_cons.1 hf
      have hvn : (n, v) ∈ (m, w) :: rest' :=
        mem_of_find?_eq_some (by rw [← h n]; simp [find?])
      have hwm : (m, w) ∈ (n, v) :: rest :=
        mem_of_find?_eq_some (by rw [h m]; simp [find?])
      have heq : (n, v) = (m, w) := by
        rcases List.mem_cons.1 hvn with h1 | h1
        · exact h1
        · rcases List.mem_cons.1 hwm with h2 | h2
          · exact h2.symm
          · exact absurd (String.lt_trans (hrest'.1 _ h1) (hrest.1 _ h2)) (String.lt_irrefl _)
      cases heq
      have htail : rest = rest' := by
        refine ih hrest.2 hrest'.2 fun name => ?_
        have hname := h name
        by_cases hn : n = name
        · subst hn
          rw [find?_eq_none fun e he h' => String.lt_irrefl _ (h' ▸ hrest.1 e he),
            find?_eq_none fun e he h' => String.lt_irrefl _ (h' ▸ hrest'.1 e he)]
        · simpa [find?, hn] using hname
      rw [htail]

/-- Inserting at the end of an ascending list appends. -/
theorem insert_of_all_lt {name : String} {value : α} {es : List (String × α)}
    (h : ∀ e ∈ es, e.1 < name) : insert name value es = es ++ [(name, value)] := by
  induction es with
  | nil => rfl
  | cons x rest ih =>
    obtain ⟨n, v⟩ := x
    have hn : n < name := h (n, v) List.mem_cons_self
    have h1 : ¬ name < n := fun h' => String.lt_irrefl _ (String.lt_trans hn h')
    have h2 : name ≠ n := fun h' => String.lt_irrefl _ (h' ▸ hn)
    simp [insert, h1, h2, ih fun e he => h e (List.mem_cons_of_mem _ he)]

/-- Inserting one entry after the other. -/
def insertAll (es start : List (String × α)) : List (String × α) :=
  es.foldl (fun acc e => insert e.1 e.2 acc) start

theorem ascending_insertAll (es : List (String × α)) {start : List (String × α)}
    (h : Ascending start) : Ascending (insertAll es start) := by
  induction es generalizing start with
  | nil => exact h
  | cons e rest ih => exact ih (ascending_insert e.1 e.2 h)

/-- Ascending entries inserted one after the other are those entries. -/
theorem insertAll_of_ascending {es done : List (String × α)}
    (h : Ascending (done ++ es)) : insertAll es done = done ++ es := by
  induction es generalizing done with
  | nil => simp [insertAll]
  | cons e rest ih =>
    have hlt : ∀ x ∈ done, x.1 < e.1 := fun x hx =>
      (List.pairwise_append.1 h).2.2 x hx e List.mem_cons_self
    show insertAll rest (insert e.1 e.2 done) = _
    rw [insert_of_all_lt hlt, ih (by simpa using h)]
    simp

theorem mem_insertAll {es start : List (String × α)} {e : String × α}
    (h : e ∈ insertAll es start) : e ∈ es ∨ e ∈ start := by
  induction es generalizing start with
  | nil => exact .inr h
  | cons x rest ih =>
    rcases ih h with h | h
    · exact .inl (List.mem_cons_of_mem _ h)
    · rcases mem_insert h with rfl | h
      · exact .inl List.mem_cons_self
      · exact .inr h

theorem mem_of_mem_insertAll_nil {es : List (String × α)} {e : String × α}
    (h : e ∈ insertAll es []) : e ∈ es := by
  rcases mem_insertAll h with h | h
  · exact h
  · cases h

theorem nodup_of_ascending {es : List (String × α)} (h : Ascending es) :
    (es.map Prod.fst).Nodup := by
  rw [List.Nodup, List.pairwise_map]
  refine List.Pairwise.imp ?_ h
  intro a b hlt heq
  rw [heq] at hlt
  exact String.lt_irrefl _ hlt

/-- Among entries with distinct names the first under a name is the one found. -/
theorem find?_eq_some_of_mem_of_nodup {name : String} {value : α} {es : List (String × α)}
    (hdistinct : (es.map Prod.fst).Nodup) (h : (name, value) ∈ es) :
    find? name es = some value := by
  induction es with
  | nil => cases h
  | cons x rest ih =>
    obtain ⟨n, v⟩ := x
    obtain ⟨hn, hrest⟩ := List.nodup_cons.1 hdistinct
    rcases List.mem_cons.1 h with h | h
    · cases h
      simp [find?]
    · have hne : n ≠ name := fun heq => hn (List.mem_map.2 ⟨_, h, heq.symm⟩)
      simp [find?, hne, ih hrest h]

theorem find?_insertAll_of_nodup {es : List (String × α)} (h : (es.map Prod.fst).Nodup)
    (start : List (String × α)) (name : String) :
    find? name (insertAll es start) = (find? name es).or (find? name start) := by
  induction es generalizing start with
  | nil => rfl
  | cons x rest ih =>
    obtain ⟨n, v⟩ := x
    obtain ⟨hn, hrest⟩ := List.nodup_cons.1 h
    show find? name (insertAll rest (insert n v start)) = _
    rw [ih hrest, find?_insert]
    by_cases heq : n = name
    · subst heq
      have hnone : find? n rest = none :=
        find?_eq_none fun e he hname => hn (List.mem_map.2 ⟨e, he, hname⟩)
      simp [find?, hnone]
    · simp [find?, heq]

end Entries

/-! ### Dictionaries -/

/-- A map from names to values. -/
structure Dictionary (α : Type) where
  entries : List (String × α)
  ascending : Entries.Ascending entries

namespace Dictionary

variable {α : Type}

@[ext] theorem ext {d e : Dictionary α} (h : d.entries = e.entries) : d = e := by
  cases d
  cases e
  cases h
  rfl

instance [DecidableEq α] : DecidableEq (Dictionary α) := fun d e =>
  if h : d.entries = e.entries then isTrue (ext h)
  else isFalse fun h' => h (h' ▸ rfl)

def empty : Dictionary α := ⟨[], List.Pairwise.nil⟩

instance : Inhabited (Dictionary α) := ⟨empty⟩

def find? (d : Dictionary α) (name : String) : Option α := Entries.find? name d.entries

def contains (d : Dictionary α) (name : String) : Bool := (d.find? name).isSome

def insert (d : Dictionary α) (name : String) (value : α) : Dictionary α :=
  ⟨Entries.insert name value d.entries, Entries.ascending_insert name value d.ascending⟩

/-- Entries in any order; the last one under a name counts. -/
def ofList (es : List (String × α)) : Dictionary α :=
  ⟨Entries.insertAll es [], Entries.ascending_insertAll es List.Pairwise.nil⟩

/-- Changes the value under a name, if there is one. -/
def update (d : Dictionary α) (name : String) (f : α → α) : Dictionary α :=
  match d.find? name with
  | some value => d.insert name (f value)
  | none => d

@[simp] theorem find?_empty (name : String) : (empty : Dictionary α).find? name = none := rfl

@[simp] theorem find?_insert (d : Dictionary α) (name other : String) (value : α) :
    (d.insert name value).find? other = if name = other then some value else d.find? other :=
  Entries.find?_insert name other value d.entries

theorem find?_update (d : Dictionary α) (name other : String) (f : α → α) :
    (d.update name f).find? other =
      if name = other then (d.find? name).map f else d.find? other := by
  unfold update
  split
  · rename_i value h
    by_cases hn : name = other <;> simp [hn]
    subst hn
    simp [h]
  · rename_i h
    by_cases hn : name = other
    · subst hn
      simp [h]
    · simp [hn]

/-- What is found under every name determines the map. -/
theorem ext_find? {d e : Dictionary α} (h : ∀ name, d.find? name = e.find? name) : d = e :=
  ext (Entries.ext_of_find? d.ascending e.ascending h)

theorem ofList_concat (es : List (String × α)) (e : String × α) :
    ofList (es ++ [e]) = (ofList es).insert e.1 e.2 := by
  apply ext
  simp [ofList, insert, Entries.insertAll]

theorem find?_ofList_of_nodup {es : List (String × α)} (h : (es.map Prod.fst).Nodup)
    (name : String) : (ofList es).find? name = Entries.find? name es := by
  show Entries.find? name (Entries.insertAll es []) = _
  rw [Entries.find?_insertAll_of_nodup h]
  exact Option.or_none

/-- A map is read back from its entries. -/
@[simp] theorem ofList_entries (d : Dictionary α) : ofList d.entries = d :=
  ext (@Entries.insertAll_of_ascending α d.entries [] d.ascending)

end Dictionary

end MeetingRoom
