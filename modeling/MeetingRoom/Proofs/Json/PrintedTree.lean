/-
  MeetingRoom/Proofs/Json/PrintedTree.lean
  ========================================
  **Trees are read back from their text.**

  A tree survives its text if its numbers are whole, its objects list their members
  in order, and it is not nested deeper than the reader allows (`Portable`).  Each
  level of the tree takes one level of the reader, so the induction is on the levels
  and not on the tree (`value_takes`).

  Conversely a tree that was read is in order and keeps to the levels, whatever its
  text was (`ordered_and_depth_le_of_parse`); only its numbers may be others.
-/
import MeetingRoom.Proofs.Json.ReadBack
import MeetingRoom.Proofs.Json.Scanning

namespace MeetingRoom.Json

open Scan (EndsNumber)

namespace Value

/-! ### Trees that a text can hold -/

mutual

/-- Every number in the tree is whole. -/
def Whole : Value → Prop
  | .number (.double _) => False
  | .list items => WholeItems items
  | .object members => WholeMembers members
  | _ => True

/-- The elements of a list are whole. -/
def WholeItems : List Value → Prop
  | [] => True
  | v :: rest => Whole v ∧ WholeItems rest

/-- The values of an object's members are whole. -/
def WholeMembers : List (String × Value) → Prop
  | [] => True
  | (_, v) :: rest => Whole v ∧ WholeMembers rest

end

/-- The tree survives its text, if the reader allows so many levels of nesting. -/
structure Portable (levels : Nat) (v : Value) : Prop where
  whole : v.Whole
  ordered : v.Ordered
  depth_le : v.depth ≤ levels

theorem wholeItems_iff {vs : List Value} : WholeItems vs ↔ ∀ v ∈ vs, v.Whole := by
  induction vs with
  | nil => simp [WholeItems]
  | cons v rest ih => simp [WholeItems, ih]

theorem orderedItems_iff {vs : List Value} : OrderedItems vs ↔ ∀ v ∈ vs, v.Ordered := by
  induction vs with
  | nil => simp [OrderedItems]
  | cons v rest ih => simp [OrderedItems, ih]

theorem depthItems_le_iff {vs : List Value} {levels : Nat} :
    depthItems vs ≤ levels ↔ ∀ v ∈ vs, v.depth ≤ levels := by
  induction vs with
  | nil => simp [depthItems]
  | cons v rest ih =>
    rw [depthItems, Nat.max_le, ih, List.forall_mem_cons]

theorem wholeMembers_iff {ms : List (String × Value)} :
    WholeMembers ms ↔ ∀ m ∈ ms, m.2.Whole := by
  induction ms with
  | nil => simp [WholeMembers]
  | cons m rest ih =>
    rw [WholeMembers, ih, List.forall_mem_cons]

theorem orderedMembers_iff {ms : List (String × Value)} :
    OrderedMembers ms ↔ ∀ m ∈ ms, m.2.Ordered := by
  induction ms with
  | nil => simp [OrderedMembers]
  | cons m rest ih =>
    rw [OrderedMembers, ih, List.forall_mem_cons]

theorem depthMembers_le_iff {ms : List (String × Value)} {levels : Nat} :
    depthMembers ms ≤ levels ↔ ∀ m ∈ ms, m.2.depth ≤ levels := by
  induction ms with
  | nil => simp [depthMembers]
  | cons m rest ih =>
    rw [depthMembers, Nat.max_le, ih, List.forall_mem_cons]

theorem portable_list_iff {vs : List Value} {levels : Nat} :
    (Value.list vs).Portable levels ↔
      ∃ inner, levels = inner + 1 ∧ ∀ v ∈ vs, v.Portable inner := by
  constructor
  · intro ⟨hwhole, hordered, hdepth⟩
    rw [depth] at hdepth
    obtain ⟨inner, rfl⟩ : ∃ inner, levels = inner + 1 := ⟨levels - 1, by omega⟩
    refine ⟨inner, rfl, ?_⟩
    intro v hv
    exact ⟨wholeItems_iff.1 hwhole v hv, orderedItems_iff.1 hordered v hv,
      depthItems_le_iff.1 (Nat.le_of_succ_le_succ hdepth) v hv⟩
  · rintro ⟨inner, rfl, h⟩
    exact ⟨wholeItems_iff.2 fun v hv => (h v hv).whole,
      orderedItems_iff.2 fun v hv => (h v hv).ordered,
      Nat.succ_le_succ (depthItems_le_iff.2 fun v hv => (h v hv).depth_le)⟩

theorem portable_object_iff {ms : List (String × Value)} {levels : Nat} :
    (Value.object ms).Portable levels ↔
      Entries.Ascending ms ∧ ∃ inner, levels = inner + 1 ∧ ∀ m ∈ ms, m.2.Portable inner := by
  constructor
  · intro ⟨hwhole, ⟨hascending, hordered⟩, hdepth⟩
    rw [depth] at hdepth
    obtain ⟨inner, rfl⟩ : ∃ inner, levels = inner + 1 := ⟨levels - 1, by omega⟩
    refine ⟨hascending, inner, rfl, ?_⟩
    intro m hm
    exact ⟨wholeMembers_iff.1 hwhole m hm, orderedMembers_iff.1 hordered m hm,
      depthMembers_le_iff.1 (Nat.le_of_succ_le_succ hdepth) m hm⟩
  · rintro ⟨hascending, inner, rfl, h⟩
    exact ⟨wholeMembers_iff.2 fun m hm => (h m hm).whole,
      ⟨hascending, orderedMembers_iff.2 fun m hm => (h m hm).ordered⟩,
      Nat.succ_le_succ (depthMembers_le_iff.2 fun m hm => (h m hm).depth_le)⟩

theorem portable_ofMembers {ms : List (String × Value)} {levels : Nat}
    (h : ∀ m ∈ ms, m.2.Portable levels) : (ofMembers ms).Portable (levels + 1) := by
  refine portable_object_iff.2 ⟨Entries.ascending_insertAll ms List.Pairwise.nil, levels, rfl, ?_⟩
  intro m hm
  exact h m (Entries.mem_of_mem_insertAll_nil hm)

/-! ### The text of a tree -/

theorem ne_of_starts_number {c x : Char} (hc : (c = '-' || c.isDigit) = true)
    (hx : (x = '-' || x.isDigit) = false) : c ≠ x := by
  rintro rfl
  rw [hx] at hc
  cases hc

theorem isSpace_of_starts_number {c : Char} (hc : (c = '-' || c.isDigit) = true) :
    Scan.isSpace c = false := by
  simp [Scan.isSpace, ne_of_starts_number hc]

/-- No tree starts like space or like the end of a list, and only null starts like
    null. -/
theorem Portable.exists_printChars_eq_cons {levels : Nat} {v : Value} (h : v.Portable levels) :
    ∃ c cs, v.printChars = c :: cs ∧ Scan.isSpace c = false ∧ c ≠ ']' ∧
      (c = 'n' → v = .null) := by
  cases v with
  | null => exact ⟨'n', "ull".toList, rfl, rfl, by decide, fun _ => rfl⟩
  | flag b =>
    cases b with
    | true => exact ⟨'t', "rue".toList, rfl, rfl, by decide, fun h => absurd h (by decide)⟩
    | false => exact ⟨'f', "alse".toList, rfl, rfl, by decide, fun h => absurd h (by decide)⟩
  | number n =>
    cases n with
    | double d => exact h.whole.elim
    | whole n fits =>
      obtain ⟨c, cs, hcs, hc⟩ := Scan.exists_print_eq_cons fits
      exact ⟨c, cs, hcs, isSpace_of_starts_number hc, ne_of_starts_number hc (by decide),
        fun h => absurd h (ne_of_starts_number hc (by decide))⟩
  | text s => exact ⟨'"', _, rfl, rfl, by decide, fun h => absurd h (by decide)⟩
  | list items => exact ⟨'[', _, rfl, rfl, by decide, fun h => absurd h (by decide)⟩
  | object members => exact ⟨'\x7b', _, rfl, rfl, by decide, fun h => absurd h (by decide)⟩

theorem printItems_cons_append (v : Value) (vs : List Value) (first : Bool) (rest : List Char) :
    printItems (v :: vs) first ++ rest =
      Scan.comma first ++ (v.printChars ++ (printItems vs false ++ rest)) := by
  rw [printItems, List.append_assoc, List.append_assoc]
  rfl

theorem printMembers_cons_append (name : String) (v : Value) (ms : List (String × Value))
    (first : Bool) (rest : List Char) :
    printMembers ((name, v) :: ms) first ++ rest =
      Scan.comma first ++
        (printText name ++ ':' :: (v.printChars ++ (printMembers ms false ++ rest))) := by
  rw [printMembers]
  simp [Scan.comma]

theorem endsNumber_printItems (vs : List Value) (rest : List Char) :
    EndsNumber (printItems vs false ++ ']' :: rest) := by
  cases vs with
  | nil =>
    rw [printItems]
    exact Scan.endsNumber_cons (by decide) rest
  | cons v vs =>
    rw [printItems]
    exact Scan.endsNumber_cons (by decide) _

theorem endsNumber_printMembers (ms : List (String × Value)) (rest : List Char) :
    EndsNumber (printMembers ms false ++ '\x7d' :: rest) := by
  cases ms with
  | nil =>
    rw [printMembers]
    exact Scan.endsNumber_cons (by decide) rest
  | cons m ms =>
    rw [printMembers]
    exact Scan.endsNumber_cons (by decide) _

end Value

namespace Scan

variable {α : Type}

/-! ### Reading a tree's text -/

/-- The scanner takes the text of the tree, whatever comes next, and yields `x`. -/
def Takes (scan : Scan α) (v : Value) (x : α) : Prop :=
  ∀ rest, EndsNumber rest → scan (v.printChars ++ rest) = .ok (x, rest)

-- the rounds are bounded by the text that is left, and each round takes some of it
theorem itemsFrom_printItems {levels : Nat} {item : Scan α} {tree : α → Value} {xs : List α}
    (hportable : ∀ x ∈ xs, (tree x).Portable levels) (hitem : ∀ x ∈ xs, item.Takes (tree x) x)
    {rounds : Nat} {first : Bool} {rest : List Char}
    (hrounds : (Value.printItems (xs.map tree) first ++ ']' :: rest).length < rounds) :
    itemsFrom item rounds first (Value.printItems (xs.map tree) first ++ ']' :: rest) =
      .ok (xs, ']' :: rest) := by
  obtain ⟨rounds, rfl⟩ : ∃ n, rounds = n + 1 := ⟨rounds - 1, by omega⟩
  induction xs generalizing rounds first with
  | nil =>
    rw [List.map_nil, Value.printItems, List.nil_append, itemsFrom,
      bind_eq_of_ok (moreItems_end first rest)]
    rfl
  | cons x xs ih =>
    obtain ⟨c, cs, hcs, hspace, hend, -⟩ :=
      (hportable x List.mem_cons_self).exists_printChars_eq_cons
    have hmore := moreItems_comma first hspace hend
      (cs ++ (Value.printItems (xs.map tree) false ++ ']' :: rest))
    rw [← List.cons_append, ← hcs] at hmore
    have hx := hitem x List.mem_cons_self _ (Value.endsNumber_printItems (xs.map tree) rest)
    rw [List.map_cons, Value.printItems_cons_append] at hrounds ⊢
    have hlength : 0 < (tree x).printChars.length := by
      rw [hcs]
      exact Nat.succ_pos _
    rw [List.length_append, List.length_append] at hrounds
    obtain ⟨rounds, rfl⟩ : ∃ n, rounds = n + 1 := ⟨rounds - 1, by omega⟩
    have hxs : itemsFrom item (rounds + 1) false
        (Value.printItems (xs.map tree) false ++ ']' :: rest) = .ok (xs, ']' :: rest) :=
      ih (fun y hy => hportable y (List.mem_cons_of_mem _ hy))
        (fun y hy => hitem y (List.mem_cons_of_mem _ hy)) rounds (by omega)
    rw [itemsFrom, bind_eq_of_ok hmore, if_pos rfl, bind_eq_of_ok hx, bind_eq_of_ok hxs]
    rfl

theorem items_printItems {levels : Nat} {item : Scan α} {tree : α → Value} {xs : List α}
    (hportable : ∀ x ∈ xs, (tree x).Portable levels) (hitem : ∀ x ∈ xs, item.Takes (tree x) x)
    (rest : List Char) :
    items item (Value.printItems (xs.map tree) true ++ ']' :: rest) = .ok (xs, rest) := by
  rw [items, bind_eq_of_ok (get_eq_ok _),
    bind_eq_of_ok (itemsFrom_printItems hportable hitem (Nat.lt_succ_self _)),
    bind_eq_of_ok (endList_cons rest)]
  rfl

theorem membersFrom_printMembers {value : Scan Value} {ms : List (String × Value)}
    (hvalue : ∀ m ∈ ms, value.Takes m.2 m.2) {rounds : Nat} {first : Bool} {rest : List Char}
    (hrounds : (Value.printMembers ms first ++ '\x7d' :: rest).length < rounds) :
    membersFrom value rounds first (Value.printMembers ms first ++ '\x7d' :: rest) =
      .ok (ms, '\x7d' :: rest) := by
  obtain ⟨rounds, rfl⟩ : ∃ n, rounds = n + 1 := ⟨rounds - 1, by omega⟩
  induction ms generalizing rounds first with
  | nil =>
    rw [Value.printMembers, List.nil_append, membersFrom,
      bind_eq_of_ok (moreMembers_end first rest)]
    rfl
  | cons m ms ih =>
    obtain ⟨name, v⟩ := m
    rw [Value.printMembers_cons_append] at hrounds ⊢
    have hv := hvalue (name, v) List.mem_cons_self _ (Value.endsNumber_printMembers ms rest)
    rw [List.length_append, List.length_append, List.length_cons, List.length_append] at hrounds
    obtain ⟨rounds, rfl⟩ : ∃ n, rounds = n + 1 := ⟨rounds - 1, by omega⟩
    have hms : membersFrom value (rounds + 1) false
        (Value.printMembers ms false ++ '\x7d' :: rest) = .ok (ms, '\x7d' :: rest) :=
      ih (fun y hy => hvalue y (List.mem_cons_of_mem _ hy)) rounds (by omega)
    rw [membersFrom, bind_eq_of_ok (moreMembers_comma first name _), if_pos rfl,
      bind_eq_of_ok (quotedText_printText name _), bind_eq_of_ok (colon_cons _),
      bind_eq_of_ok hv, bind_eq_of_ok hms]
    rfl

theorem members_printMembers {value : Scan Value} {ms : List (String × Value)}
    (hvalue : ∀ m ∈ ms, value.Takes m.2 m.2) (rest : List Char) :
    members value (Value.printMembers ms true ++ '\x7d' :: rest) = .ok (ms, rest) := by
  rw [members, bind_eq_of_ok (get_eq_ok _),
    bind_eq_of_ok (membersFrom_printMembers hvalue (Nat.lt_succ_self _)),
    bind_eq_of_ok (endObject_cons rest)]
  rfl

theorem value_of_starts_number {c : Char} (hc : (c = '-' || c.isDigit) = true) (levels : Nat)
    (cs : List Char) : value levels (c :: cs) = (Value.number <$> number) (c :: cs) := by
  have hother : ∀ {x : Char}, (x = '-' || x.isDigit) = false → c ≠ x :=
    Value.ne_of_starts_number hc
  have hn : c ≠ 'n' := hother rfl
  have ht : c ≠ 't' := hother rfl
  have hf : c ≠ 'f' := hother rfl
  have hquote : c ≠ '"' := hother rfl
  have hlist : c ≠ '[' := hother rfl
  have hobject : c ≠ '\x7b' := hother rfl
  rw [value.eq_def, bind_eq_of_ok (peek_cons (Value.isSpace_of_starts_number hc) cs)]
  simp only [hc, if_true]

/-- **A portable tree is read back from its text.** -/
theorem value_takes {levels : Nat} {v : Value} (h : v.Portable levels) :
    (value levels).Takes v v := by
  induction levels using Nat.strongRecOn generalizing v with
  | ind levels ih =>
    intro rest hrest
    cases v with
    | null =>
      show value levels ('n' :: ("ull".toList ++ rest)) = _
      rw [value.eq_def, bind_eq_of_ok (peek_cons rfl _)]
      exact bind_eq_of_ok (word_append "null".toList rest) fun _ => pure Value.null
    | flag b =>
      cases b with
      | true =>
        show value levels ('t' :: ("rue".toList ++ rest)) = _
        rw [value.eq_def, bind_eq_of_ok (peek_cons rfl _)]
        exact bind_eq_of_ok (word_append "true".toList rest) fun _ => pure (Value.flag true)
      | false =>
        show value levels ('f' :: ("alse".toList ++ rest)) = _
        rw [value.eq_def, bind_eq_of_ok (peek_cons rfl _)]
        exact bind_eq_of_ok (word_append "false".toList rest) fun _ => pure (Value.flag false)
    | number n =>
      cases n with
      | double d => exact h.whole.elim
      | whole n fits =>
        have hnumber := number_print fits hrest
        obtain ⟨c, cs, hcs, hc⟩ := exists_print_eq_cons fits
        rw [Value.printChars]
        rw [hcs, List.cons_append] at hnumber ⊢
        rw [value_of_starts_number hc]
        exact map_eq_of_ok hnumber Value.number
    | text s =>
      show value levels ('"' :: (s.toList.flatMap printChar ++ ['"'] ++ rest)) = _
      rw [value.eq_def, bind_eq_of_ok (peek_cons rfl _)]
      exact map_eq_of_ok (quotedText_printText s rest) Value.text
    | list vs =>
      obtain ⟨inner, rfl, hvs⟩ := Value.portable_list_iff.1 h
      have hitems : items (value inner) (Value.printItems (vs.map id) true ++ ']' :: rest) =
          .ok (vs, rest) :=
        items_printItems hvs (fun v hv => ih inner (Nat.lt_succ_self _) (hvs v hv)) rest
      rw [List.map_id] at hitems
      rw [Value.printChars, List.append_assoc, List.cons_append, value.eq_def,
        bind_eq_of_ok (peek_cons rfl _)]
      exact (bind_eq_of_ok (advance_cons _ _) _).trans (map_eq_of_ok hitems Value.list)
    | object ms =>
      obtain ⟨hascending, inner, rfl, hms⟩ := Value.portable_object_iff.1 h
      have hmembers : members (value inner) (Value.printMembers ms true ++ '\x7d' :: rest) =
          .ok (ms, rest) :=
        members_printMembers (fun m hm => ih inner (Nat.lt_succ_self _) (hms m hm)) rest
      have hordered : Value.ofMembers ms = .object ms :=
        congrArg Value.object (Entries.insertAll_of_ascending hascending)
      rw [Value.printChars, List.append_assoc, List.cons_append, value.eq_def,
        bind_eq_of_ok (peek_cons rfl _), ← hordered]
      exact (bind_eq_of_ok (advance_cons _ _) _).trans (map_eq_of_ok hmembers Value.ofMembers)

/-! ### Trees that were read -/

/-- Whatever the text is, what the scanner yields has the property. -/
def Yields (scan : Scan α) (P : α → Prop) : Prop :=
  ∀ cs x rest, scan cs = .ok (x, rest) → P x

section

variable {β : Type} {P : α → Prop} {Q : β → Prop}

theorem yields_true (scan : Scan α) : scan.Yields fun _ => True := by
  intro cs x rest _
  trivial

theorem yields_pure {x : α} (h : P x) : Yields (pure x) P := by
  intro cs y rest hy
  obtain ⟨rfl, -⟩ := Prod.mk.inj (Except.ok.inj hy)
  exact h

theorem yields_malformed (why : Malformation) (P : α → Prop) : Yields (malformed why) P := by
  intro cs x rest h
  cases h

theorem Yields.bind {scan : Scan α} {next : α → Scan β} (h : scan.Yields P)
    (hnext : ∀ x, P x → (next x).Yields Q) : (scan >>= next).Yields Q := by
  intro cs y rest hy
  change (scan cs >>= fun p => next p.1 p.2) = _ at hy
  obtain ⟨⟨x, mid⟩, hx, hy⟩ := bind_eq_ok.1 hy
  exact hnext x (h cs x mid hx) mid y rest hy

theorem Yields.map {scan : Scan α} {f : α → β} (h : scan.Yields P) (hf : ∀ x, P x → Q (f x)) :
    (f <$> scan).Yields Q := by
  rw [map_eq_pure_bind]
  exact h.bind fun x hx => yields_pure (hf x hx)

theorem Yields.of_whole {scan : Scan α} (h : scan.Yields P) {text : String} {x : α}
    (hx : whole scan text = .ok x) : P x := by
  rw [whole] at hx
  split at hx
  · rename_i y rest hy
    obtain rfl := Except.ok.inj hx
    refine Yields.bind h (fun x hx => (yields_true peek).bind fun next _ => ?_) _ _ _ hy
    split
    · exact yields_pure hx
    · exact yields_malformed _ _
  · cases hx

theorem yields_itemsFrom {item : Scan α} (h : item.Yields P) (rounds : Nat) (first : Bool) :
    (itemsFrom item rounds first).Yields fun xs => ∀ x ∈ xs, P x := by
  induction rounds generalizing first with
  | zero => exact yields_malformed _ _
  | succ rounds ih =>
    rw [itemsFrom]
    refine (yields_true _).bind ?_
    intro more _
    split
    · refine h.bind fun x hx => (ih false).bind fun xs hxs => yields_pure ?_
      exact List.forall_mem_cons.2 ⟨hx, hxs⟩
    · exact yields_pure (List.forall_mem_nil _)

theorem yields_items {item : Scan α} (h : item.Yields P) :
    (items item).Yields fun xs => ∀ x ∈ xs, P x := by
  refine (yields_true _).bind fun cs _ => (yields_itemsFrom h _ _).bind fun xs hxs => ?_
  exact (yields_true _).bind fun _ _ => yields_pure hxs

theorem yields_membersFrom {value : Scan α} (h : value.Yields P) (rounds : Nat) (first : Bool) :
    (membersFrom value rounds first).Yields fun ms => ∀ m ∈ ms, P m.2 := by
  induction rounds generalizing first with
  | zero => exact yields_malformed _ _
  | succ rounds ih =>
    rw [membersFrom]
    refine (yields_true _).bind ?_
    intro more _
    split
    · refine (yields_true _).bind fun name _ => (yields_true _).bind fun _ _ => ?_
      refine h.bind fun x hx => (ih false).bind fun ms hms => yields_pure ?_
      exact List.forall_mem_cons.2 ⟨hx, hms⟩
    · exact yields_pure (List.forall_mem_nil _)

theorem yields_members {value : Scan α} (h : value.Yields P) :
    (members value).Yields fun ms => ∀ m ∈ ms, P m.2 := by
  refine (yields_true _).bind fun cs _ => (yields_membersFrom h _ _).bind fun ms hms => ?_
  exact (yields_true _).bind fun _ _ => yields_pure hms

end

theorem value_yields_ordered (levels : Nat) :
    (value levels).Yields fun v => v.Ordered ∧ v.depth ≤ levels := by
  induction levels using Nat.strongRecOn with
  | ind levels ih =>
    have hflat : ∀ v : Value, v.Ordered → v.depth = 0 → v.Ordered ∧ v.depth ≤ levels := by
      intro v hordered hdepth
      exact ⟨hordered, hdepth ▸ Nat.zero_le _⟩
    rw [value.eq_def]
    refine (yields_true _).bind ?_
    intro next _
    split
    · exact yields_malformed _ _
    · exact (yields_true _).bind fun _ _ => yields_pure (hflat _ trivial rfl)
    · exact (yields_true _).bind fun _ _ => yields_pure (hflat _ trivial rfl)
    · exact (yields_true _).bind fun _ _ => yields_pure (hflat _ trivial rfl)
    · exact (yields_true _).map fun s _ => hflat (.text s) trivial rfl
    · split
      · exact yields_malformed _ _
      · rename_i inner
        refine (yields_true _).bind fun _ _ =>
          (yields_items (ih inner (Nat.lt_succ_self inner))).map ?_
        intro vs hvs
        exact ⟨Value.orderedItems_iff.2 fun v hv => (hvs v hv).1,
          Nat.succ_le_succ (Value.depthItems_le_iff.2 fun v hv => (hvs v hv).2)⟩
    · split
      · exact yields_malformed _ _
      · rename_i inner
        refine (yields_true _).bind fun _ _ =>
          (yields_members (ih inner (Nat.lt_succ_self inner))).map ?_
        intro ms hms
        have hplaced : ∀ m ∈ Entries.insertAll ms [], m.2.Ordered ∧ m.2.depth ≤ inner :=
          fun m hm => hms m (Entries.mem_of_mem_insertAll_nil hm)
        exact ⟨⟨Entries.ascending_insertAll ms List.Pairwise.nil,
            Value.orderedMembers_iff.2 fun m hm => (hplaced m hm).1⟩,
          Nat.succ_le_succ (Value.depthMembers_le_iff.2 fun m hm => (hplaced m hm).2)⟩
    · split
      · exact (yields_true _).map fun n _ => hflat (.number n) trivial rfl
      · exact yields_malformed _ _

end Scan

/-- **A tree that was read is in order and not nested too deep.** -/
theorem Value.ordered_and_depth_le_of_parse {text : String} {v : Value}
    (h : Value.parse text = .ok v) : v.Ordered ∧ v.depth ≤ Scan.nesting :=
  (Scan.value_yields_ordered Scan.nesting).of_whole h

end MeetingRoom.Json
