/-
  MeetingRoom/Proofs/Session/Question.lean
  ========================================
  **Which questions are accepted, and what they come to.**

  A question is accepted if it has a character that is not blank and a symbol
  was picked.  It is passed on without the blanks around it: what is taken off
  at both ends is blank, and what is left neither begins nor ends with a blank
  (`isStripped_trimBlank`).

  An accepted question adds one message, sets the activity flag and asks for a
  meeting, all at once; any other question changes nothing
  (`Session.apply_submitQuery`).
-/
import Mathlib.Data.List.DropRight
import MeetingRoom.Session.Store

namespace MeetingRoom

open Text (trimBlank isBlank stripWhile dropEndWhile)

namespace Text

/-! ### Texts without the blanks around them -/

def NonBlank (s : String) : Prop := ∃ c ∈ s.toList, isBlank c = false

instance (s : String) : Decidable (NonBlank s) :=
  inferInstanceAs (Decidable (∃ c ∈ s.toList, isBlank c = false))

/-- `core` is `s` without the blanks at its ends. -/
structure IsStripped (s core : String) : Prop where
  parts : ∃ before after, s.toList = before ++ core.toList ++ after ∧
    (∀ c ∈ before, isBlank c = true) ∧ ∀ c ∈ after, isBlank c = true
  head : ∀ c ∈ core.toList.head?, isBlank c = false
  last : ∀ c ∈ core.toList.getLast?, isBlank c = false

theorem dropEndWhile_eq_rdropWhile (p : Char → Bool) (cs : List Char) :
    dropEndWhile p cs = cs.rdropWhile p := rfl

theorem stripWhile_eq_nil_iff {p : Char → Bool} {cs : List Char} :
    stripWhile p cs = [] ↔ ∀ c ∈ cs, p c = true := by
  rw [stripWhile, dropEndWhile_eq_rdropWhile, List.rdropWhile_eq_nil_iff]
  constructor
  · intro h
    have hnil : cs.dropWhile p = [] := by
      cases hdrop : cs.dropWhile p with
      | nil => rfl
      | cons c rest =>
        -- the first character that is kept does not pass the test
        have hkept : p c = false := by simpa [hdrop] using List.head?_dropWhile_not p cs
        have hpass : p c = true := h c (by rw [hdrop]; exact List.mem_cons_self)
        rw [hkept] at hpass
        cases hpass
    exact List.dropWhile_eq_nil_iff.1 hnil
  · intro h c hc
    exact h c ((List.dropWhile_sublist p).subset hc)

theorem exists_eq_append_stripWhile (p : Char → Bool) (cs : List Char) :
    ∃ before after, cs = before ++ stripWhile p cs ++ after ∧
      (∀ c ∈ before, p c = true) ∧ ∀ c ∈ after, p c = true := by
  have hfront : cs.takeWhile p ++ cs.dropWhile p = cs := List.takeWhile_append_dropWhile
  have hback : (cs.dropWhile p).rdropWhile p ++ (cs.dropWhile p).rtakeWhile p = cs.dropWhile p := by
    rw [List.rdropWhile, List.rtakeWhile, ← List.reverse_append, List.takeWhile_append_dropWhile,
      List.reverse_reverse]
  refine ⟨cs.takeWhile p, (cs.dropWhile p).rtakeWhile p, ?_, ?_, ?_⟩
  · rw [stripWhile, dropEndWhile_eq_rdropWhile, List.append_assoc, hback, hfront]
  · intro c hc
    exact List.mem_takeWhile_imp hc
  · intro c hc
    exact List.mem_rtakeWhile_imp hc

theorem getLast?_stripWhile {p : Char → Bool} {cs : List Char} {c : Char}
    (h : c ∈ (stripWhile p cs).getLast?) : p c = false := by
  have hne : (cs.dropWhile p).rdropWhile p ≠ [] := by
    intro hnil
    rw [stripWhile, dropEndWhile_eq_rdropWhile, hnil] at h
    cases h
  have hlast := List.rdropWhile_last_not p (cs.dropWhile p) hne
  have hc : ((cs.dropWhile p).rdropWhile p).getLast hne = c := by
    rw [← Option.some_inj, ← List.getLast?_eq_some_getLast hne]
    exact h
  rw [hc] at hlast
  simpa using hlast

theorem head?_stripWhile {p : Char → Bool} {cs : List Char} {c : Char}
    (h : c ∈ (stripWhile p cs).head?) : p c = false := by
  -- what is left at the end starts where the text before it starts
  have hhead : (cs.dropWhile p).head? = some c := by
    obtain ⟨tail, htail⟩ := List.rdropWhile_prefix p (cs.dropWhile p)
    rw [← htail, List.head?_append]
    rw [Option.mem_def] at h
    rw [show ((cs.dropWhile p).rdropWhile p).head? = some c from h]
    rfl
  simpa [hhead] using List.head?_dropWhile_not p cs

theorem isStripped_trimBlank (s : String) : IsStripped s (trimBlank s) := by
  have hcore : (trimBlank s).toList = stripWhile isBlank s.toList := String.toList_ofList
  constructor
  · rw [hcore]
    exact exists_eq_append_stripWhile isBlank s.toList
  · rw [hcore]
    intro c hc
    exact head?_stripWhile hc
  · rw [hcore]
    intro c hc
    exact getLast?_stripWhile hc

theorem trimBlank_ne_empty_iff {s : String} : trimBlank s ≠ "" ↔ NonBlank s := by
  have hempty : trimBlank s = "" ↔ ∀ c ∈ s.toList, isBlank c = true := by
    rw [← stripWhile_eq_nil_iff, trimBlank]
    constructor
    · intro h
      simpa using congrArg String.toList h
    · intro h
      rw [h]
  rw [ne_eq, hempty, NonBlank]
  simp

end Text

/-! ### Accepted questions -/

open Text (NonBlank)

namespace Session

theorem hasSymbol_iff {s : Session} : s.hasSymbol = true ↔ s.symbol ≠ "" := by
  simp [hasSymbol]

theorem accepts_iff {s : Session} {query : String} :
    s.accepts query = true ↔ NonBlank query ∧ s.symbol ≠ "" := by
  rw [← Text.trimBlank_ne_empty_iff, ← hasSymbol_iff]
  simp [accepts]

/-- A question is in the round of the newest message, and the first one in round one. -/
theorem currentRound_eq (s : Session) :
    s.currentRound = (s.transcript.getLast?.map Message.round).getD 1 := by
  rw [currentRound]
  cases s.transcript.getLast? <;> rfl

/-- The session after a question that is accepted. -/
def asked (s : Session) (query author timestamp : String) : Session :=
  { s with
    transcript := s.transcript ++
      [.fromUser author (trimBlank query) timestamp s.currentRound]
    busy := true }

/-- **What a question does.** -/
theorem apply_submitQuery (s : Session) (query author timestamp : String) :
    s.apply (.submitQuery query author timestamp) =
      if NonBlank query ∧ s.symbol ≠ "" then
        { session := s.asked query author timestamp
          effects := [.startSession s.symbol (trimBlank query)] }
      else { session := s } := by
  by_cases h : NonBlank query ∧ s.symbol ≠ ""
  · have haccepts : s.accepts query = true := accepts_iff.2 h
    rw [if_pos h, apply, if_pos haccepts]
    rfl
  · have haccepts : ¬ s.accepts query = true := fun h' => h (accepts_iff.1 h')
    rw [if_neg h, apply, if_neg haccepts]

end Session

theorem Store.dispatch_submitQuery (s : Store) (query author timestamp : String) :
    s.dispatch (.submitQuery query author timestamp) =
      if NonBlank query ∧ s.session.symbol ≠ "" then
        { store :=
            { s with
              session := s.session.asked query author timestamp, version := s.version + 1 }
          effects := [.startSession s.session.symbol (trimBlank query)]
          notices := [] }
      else { store := { s with version := s.version + 1 }, effects := [], notices := [] } := by
  simp only [dispatch, Session.apply_submitQuery]
  split <;> rfl

end MeetingRoom
