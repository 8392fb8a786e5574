/-
  MeetingRoom/Proofs/Json/PrintedRecord.lean
  ==========================================
  **What is written is read back from its text.**

  A text is not read by way of its tree: it is scanned under the shape, in one pass.
  For what was written under the shape the two ways give the same
  (`Shape.scan_write`), if the tree survives its text and the shape keeps values
  apart.

  A record's members come in the order of their names and not of its fields.  What
  matters is that no name comes twice, so that a member is never refused as a
  duplicate; the draft then goes through the same steps as it does for the tree
  (`draftFrom_printMembers`).
-/
import MeetingRoom.Proofs.Json.PrintedTree

namespace MeetingRoom.Json

open Scan

/-! ### Words -/

namespace Scan

variable {α : Type}

theorem text_takes (wanted s : String) : (text wanted).Takes (.text s) s := by
  intro rest _
  show text wanted ('"' :: (s.toList.flatMap printChar ++ ['"'] ++ rest)) = _
  rw [text, bind_eq_of_ok (peek_cons rfl _), if_pos rfl]
  exact quotedText_printText s rest

theorem choice_takes {names : List String} (h : names.Nodup) (i : Fin names.length)
    (levels : Nat) : (choice names levels).Takes (.text (names.get i)) i := by
  intro rest _
  show choice names levels ('"' :: ((names.get i).toList.flatMap printChar ++ ['"'] ++ rest)) = _
  rw [choice, bind_eq_of_ok (peek_cons rfl _)]
  refine (bind_eq_of_ok (quotedText_printText (names.get i) rest) _).trans ?_
  rw [choiceIndex_get h]
  rfl

theorem numeric_takes {n : Int} {fits : -0x8000000000000000 ≤ n ∧ n < 0x10000000000000000}
    {check : Number → Except Problem α} {x : α} (h : check (.whole n fits) = .ok x)
    (wanted : String) : (numeric wanted check).Takes (.number (.whole n fits)) x := by
  intro rest hrest
  have hnumber := number_print fits hrest
  obtain ⟨c, cs, hcs, hc⟩ := exists_print_eq_cons fits
  rw [Value.printChars]
  rw [hcs, List.cons_append] at hnumber ⊢
  rw [numeric, bind_eq_of_ok (peek_cons (Value.isSpace_of_starts_number hc) _)]
  simp only [hc, if_true]
  rw [bind_eq_of_ok hnumber, h]
  rfl

end Scan

/-! ### Shapes -/

namespace Shape

theorem scan_flag_takes (b : Bool) (levels : Nat) :
    (Shape.flag.scan levels).Takes (.flag b) b := by
  intro rest _
  cases b with
  | true =>
    show Shape.flag.scan levels ('t' :: ("rue".toList ++ rest)) = _
    rw [Shape.scan, bind_eq_of_ok (peek_cons rfl _)]
    exact bind_eq_of_ok (word_append "true".toList rest) fun _ => pure true
  | false =>
    show Shape.flag.scan levels ('f' :: ("alse".toList ++ rest)) = _
    rw [Shape.scan, bind_eq_of_ok (peek_cons rfl _)]
    exact bind_eq_of_ok (word_append "false".toList rest) fun _ => pure false

theorem scan_dictionary_takes {levels : Nat} {d : Dictionary Value}
    (h : (Value.object d.entries).Portable levels) :
    (Shape.dictionary.scan levels).Takes (.object d.entries) d := by
  obtain ⟨-, inner, rfl, hentries⟩ := Value.portable_object_iff.1 h
  intro rest _
  have hmembers := members_printMembers (fun m hm => value_takes (hentries m hm)) rest
  have hdictionary := map_eq_of_ok hmembers Dictionary.ofList
  rw [d.ofList_entries] at hdictionary
  rw [Value.printChars, List.append_assoc, List.cons_append, Shape.scan,
    bind_eq_of_ok (peek_cons rfl _)]
  exact (bind_eq_of_ok (advance_cons _ _) _).trans hdictionary

theorem scan_null_takes (inner : Shape) (levels : Nat) :
    ((Shape.nullable inner).scan levels).Takes .null none := by
  intro rest _
  show (Shape.nullable inner).scan levels ('n' :: ("ull".toList ++ rest)) = _
  rw [Shape.scan, bind_eq_of_ok (peek_cons rfl _)]
  exact bind_eq_of_ok (word_append "null".toList rest) fun _ => pure none

theorem scan_nullable_takes {inner : Shape} {levels : Nat} {v : Value} {x : inner.Denote}
    (h : v.Portable levels) (hv : v ≠ .null) (hinner : (inner.scan levels).Takes v x) :
    ((Shape.nullable inner).scan levels).Takes v (some x) := by
  intro rest hrest
  have hx := hinner rest hrest
  obtain ⟨c, cs, hcs, hspace, -, hnull⟩ := h.exists_printChars_eq_cons
  have hn : some c ≠ some 'n' := fun hc => hv (hnull (Option.some.inj hc))
  rw [hcs, List.cons_append] at hx ⊢
  rw [Shape.scan, bind_eq_of_ok (peek_cons hspace _)]
  simp only
  exact map_eq_of_ok hx some

theorem scan_listOf_takes {item : Shape} {levels : Nat} {xs : List item.Denote}
    (h : (Value.list (xs.map item.write)).Portable levels)
    (hitem : ∀ inner x, (item.write x).Portable inner →
      (item.scan inner).Takes (item.write x) x) :
    ((Shape.listOf item).scan levels).Takes (.list (xs.map item.write)) xs := by
  obtain ⟨inner, rfl, hportable⟩ := Value.portable_list_iff.1 h
  rw [List.forall_mem_map] at hportable
  intro rest _
  have hitems := items_printItems hportable (fun x hx => hitem inner x (hportable x hx)) rest
  rw [Value.printChars, List.append_assoc, List.cons_append, Shape.scan,
    bind_eq_of_ok (peek_cons rfl _)]
  exact (bind_eq_of_ok (advance_cons _ _) _).trans hitems

end Shape

/-! ### Members of a record -/

namespace Fields

/-- After its name, the member is taken into the draft, which then is `draft'`. -/
def TakesMember (fields : Fields) (levels : Nat) (m : String × Value)
    (draft draft' : fields.Draft) : Prop :=
  ∃ read, fields.scanMember levels m.1 draft = some read ∧
    ∀ rest, EndsNumber rest → read (':' :: (m.2.printChars ++ rest)) = .ok (draft', rest)

section

variable {name : String} {presence : Presence} {shape : Shape} {fields : Fields} {levels : Nat}

theorem takesMember_head {v : Value} {x : shape.Denote} (h : (shape.scan levels).Takes v x)
    (draft : fields.Draft) :
    (Fields.cons name presence shape fields).TakesMember levels (name, v) (none, draft)
      (some x, draft) := by
  rw [TakesMember, scanMember, if_pos rfl]
  refine ⟨_, rfl, ?_⟩
  intro rest hrest
  exact (bind_eq_of_ok (colon_cons _) _).trans (bind_eq_of_ok (h rest hrest) _)

theorem takesMember_tail {m : String × Value} {draft draft' : fields.Draft} (hname : name ≠ m.1)
    (h : fields.TakesMember levels m draft draft') (found : Option shape.Denote) :
    (Fields.cons name presence shape fields).TakesMember levels m (found, draft)
      (found, draft') := by
  obtain ⟨read, hread, htakes⟩ := h
  rw [TakesMember, scanMember, if_neg hname, hread]
  refine ⟨_, rfl, ?_⟩
  intro rest hrest
  exact bind_eq_of_ok (htakes rest hrest) _

end

/-- What reading a tree does with a member, scanning the member's text does as well,
    unless the name was there before. -/
def MemberAgrees (fields : Fields) (levels : Nat) (m : String × Value) : Prop :=
  ∀ look draft draft', look m.1 = none → fields.Gathers look draft →
    fields.assign m.1 m.2 draft = .ok draft' → fields.TakesMember levels m draft draft'

theorem draftFrom_printMembers {fields : Fields} {levels : Nat} {ms : List (String × Value)}
    (hfields : fields.names.Nodup) (hms : (ms.map Prod.fst).Nodup)
    (hagrees : ∀ m ∈ ms, fields.MemberAgrees levels m)
    {look : String → Option Value} {draft last : fields.Draft}
    (hgathers : fields.Gathers look draft) (hlook : ∀ m ∈ ms, look m.1 = none)
    (hfold : ms.foldlM (fun draft m => fields.assign m.1 m.2 draft) draft = .ok last)
    {rounds : Nat} {first : Bool} {rest : List Char}
    (hrounds : (Value.printMembers ms first ++ '\x7d' :: rest).length < rounds) :
    draftFrom (fun key draft => fields.scanMember levels key draft) rounds first draft
        (Value.printMembers ms first ++ '\x7d' :: rest) = .ok (last, '\x7d' :: rest) := by
  obtain ⟨rounds, rfl⟩ : ∃ n, rounds = n + 1 := ⟨rounds - 1, by omega⟩
  induction ms generalizing look draft rounds first with
  | nil =>
    obtain rfl : draft = last := Except.ok.inj hfold
    rw [Value.printMembers, List.nil_append, draftFrom, bind_eq_of_ok (moreMembers_end first rest)]
    rfl
  | cons m ms ih =>
    obtain ⟨name, v⟩ := m
    rw [List.foldlM_cons] at hfold
    obtain ⟨next, hassign, hfold⟩ := bind_eq_ok.1 hfold
    obtain ⟨hname, hms⟩ := List.nodup_cons.1 hms
    obtain ⟨read, hread, htakes⟩ := hagrees (name, v) List.mem_cons_self look draft next
      (hlook _ List.mem_cons_self) hgathers hassign
    have hv := htakes _ (Value.endsNumber_printMembers ms rest)
    have hlook' : ∀ y ∈ ms, (if name = y.1 then some v else look y.1) = none := by
      intro y hy
      have hne : name ≠ y.1 := fun heq => hname (List.mem_map.2 ⟨y, hy, heq.symm⟩)
      rw [if_neg hne]
      exact hlook y (List.mem_cons_of_mem _ hy)
    rw [Value.printMembers_cons_append] at hrounds ⊢
    rw [List.length_append, List.length_append, List.length_cons, List.length_append] at hrounds
    obtain ⟨rounds, rfl⟩ : ∃ n, rounds = n + 1 := ⟨rounds - 1, by omega⟩
    have hrest : draftFrom (fun key draft => fields.scanMember levels key draft) (rounds + 1) false
        next (Value.printMembers ms false ++ '\x7d' :: rest) = .ok (last, '\x7d' :: rest) :=
      ih hms (fun y hy => hagrees y (List.mem_cons_of_mem _ hy)) (hgathers.assign hfields hassign)
        hlook' hfold rounds (by omega)
    rw [draftFrom, bind_eq_of_ok (moreMembers_comma first name _), if_pos rfl,
      bind_eq_of_ok (quotedText_printText name _), hread]
    exact (bind_eq_of_ok hv _).trans hrest

end Fields

theorem Shape.scan_record_takes {name : String} {fields : Fields} {levels : Nat}
    {x : fields.Denote} (hfaithful : fields.faithful = true)
    (h : ((Shape.record name fields).write x).Portable levels)
    (hagrees : ∀ inner, ∀ m ∈ fields.write x, m.2.Portable inner →
      fields.MemberAgrees inner m) :
    ((Shape.record name fields).scan levels).Takes ((Shape.record name fields).write x) x := by
  have hread := (Shape.record name fields).read_write hfaithful x
  rw [Shape.write, Value.ofMembers] at h hread ⊢
  generalize hms : Entries.insertAll (fields.write x) [] = ms at h hread ⊢
  obtain ⟨hascending, inner, rfl, hportable⟩ := Value.portable_object_iff.1 h
  obtain ⟨draft, hfold, hsettle⟩ := bind_eq_ok.1 hread
  have hwritten : ∀ m ∈ ms, m ∈ fields.write x := by
    intro m hm
    rw [← hms] at hm
    exact Entries.mem_of_mem_insertAll_nil hm
  have hdistinct := Entries.nodup_of_ascending hascending
  intro rest _
  have hdraft := Fields.draftFrom_printMembers (fields.nodup_names_of_faithful hfaithful) hdistinct
    (fun m hm => hagrees inner m (hwritten m hm) (hportable m hm)) fields.gathers_blank
    (fun _ _ => rfl) hfold (Nat.lt_succ_self (Value.printMembers ms true ++ '\x7d' :: rest).length)
  rw [Value.printChars, List.append_assoc, List.cons_append, Shape.scan,
    bind_eq_of_ok (peek_cons rfl _)]
  refine (bind_eq_of_ok (advance_cons _ _) _).trans ?_
  refine (bind_eq_of_ok (get_eq_ok _) _).trans ?_
  refine (bind_eq_of_ok hdraft _).trans ?_
  rw [hsettle]
  exact bind_eq_of_ok (endObject_cons rest) fun _ => pure x

/-! ### All shapes -/

mutual

/-- **What is written under a shape is read back from its text.** -/
theorem Shape.scan_write : (shape : Shape) → shape.faithful = true → (levels : Nat) →
    (x : shape.Denote) → (shape.write x).Portable levels →
    (shape.scan levels).Takes (shape.write x) x
  | .text, _, _, s, _ => text_takes "a string" s
  | .flag, _, levels, b, _ => Shape.scan_flag_takes b levels
  | .word32, _, _, n, _ => numeric_takes (Number.toWord32_ofWord32 n) "u32"
  | .word64, _, _, n, _ => numeric_takes (Number.toWord64_ofWord64 n) "u64"
  | .int64, _, _, n, _ => numeric_takes (Number.toInt64_ofInt64 n) "i64"
  | .double, _, _, _, h => h.whole.elim
  | .anything, _, _, _, h => value_takes h
  | .dictionary, _, _, _, h => Shape.scan_dictionary_takes h
  | .choice _, hfaithful, levels, i, _ => choice_takes (of_decide_eq_true hfaithful) i levels
  | .nullable inner, hfaithful, levels, x, h => by
    simp only [Shape.faithful, Bool.and_eq_true, Bool.not_eq_true'] at hfaithful
    cases x with
    | none => exact Shape.scan_null_takes inner levels
    | some x =>
      exact Shape.scan_nullable_takes h (Shape.write_ne_null hfaithful.1 x)
        (inner.scan_write hfaithful.2 levels x h)
  | .listOf item, hfaithful, _, _, h => Shape.scan_listOf_takes h (item.scan_write hfaithful)
  | .record _ fields, hfaithful, _, _, h =>
    Shape.scan_record_takes hfaithful h fun _ _ hm hportable =>
      fields.memberAgrees_of_mem_write hfaithful hm hportable

theorem Fields.memberAgrees_of_mem_write : (fields : Fields) → fields.faithful = true →
    {x : fields.Denote} → {levels : Nat} → {m : String × Value} → m ∈ fields.write x →
    m.2.Portable levels → fields.MemberAgrees levels m
  | .nil, _, _, _, _, hm, _ => by cases hm
  | .cons name _ shape rest, hfaithful, (_, _), _, m, hm, hportable => by
    simp only [Fields.faithful, Bool.and_eq_true, Bool.not_eq_true', List.contains_eq_mem,
      decide_eq_false_iff_not] at hfaithful
    obtain ⟨⟨hname, hshape⟩, hrest⟩ := hfaithful
    intro look (found, draft) draft' hlook ⟨hfound, hgathers⟩ hassign
    rw [Fields.assign] at hassign
    rcases Fields.eq_or_mem_of_mem_write_cons hm with ⟨y, rfl⟩ | hm
    · obtain rfl : found = none := by
        rw [hlook] at hfound
        simpa using hfound.symm
      rw [if_pos rfl, shape.read_write hshape] at hassign
      obtain rfl := Except.ok.inj hassign
      exact Fields.takesMember_head (shape.scan_write hshape _ y hportable) draft
    · have hne : name ≠ m.1 := fun heq => hname (heq ▸ Fields.mem_names_of_mem_write hm)
      rw [if_neg hne] at hassign
      obtain ⟨next, hnext, rfl⟩ := map_eq_ok.1 hassign
      have hagrees := rest.memberAgrees_of_mem_write hrest hm hportable
      exact Fields.takesMember_tail hne (hagrees look draft next hlook hgathers hnext) found

end

/-! ### Whole texts -/

theorem Scan.whole_print {α : Type} {scan : Scan α} {v : Value} {x : α} (h : scan.Takes v x) :
    whole scan v.print = .ok x := by
  have hx := h [] endsNumber_nil
  rw [List.append_nil] at hx
  rw [whole, Value.print, String.toList_ofList, bind_eq_of_ok hx]
  rfl

/-- **A value is read back from the text that is written of it.** -/
theorem Codec.parse_print {α : Type} {codec : Codec α} (hfaithful : codec.shape.faithful = true)
    {x : α} (h : (codec.write x).Portable nesting) :
    codec.parse (codec.write x).print = .ok x := by
  have htakes := codec.shape.scan_write hfaithful nesting (codec.toData x) h
  rw [parse, Shape.parse, write, whole_print htakes]
  exact congrArg Except.ok (codec.ofData_toData x)

end MeetingRoom.Json
