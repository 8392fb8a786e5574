/-
  MeetingRoom/Proofs/Json/Scanning.lean
  =====================================
  **Scanners on the words that are written.**

  A scanner that is known to succeed is replaced by what it yields and what it
  leaves (`bind_eq_of_ok`); so a run on a known text is a chain of rewrites, one for
  each word.  This file has the equations for single words: separators, quoted texts
  (`quotedText_printText`) and whole numbers (`number_print`).

  Most words end where they end.  A number ends where what follows is no part of a
  number, so there the text that follows matters (`EndsNumber`).
-/
import MeetingRoom.Json.Parse
import MeetingRoom.Json.Print
import Mathlib.Data.List.Basic

namespace MeetingRoom.Json

open MeetingRoom.Decimal (digitsValue)
open MeetingRoom.Text (hexValue?)

namespace Scan

variable {α β : Type}

/-! ### One step after the other -/

theorem bind_eq_of_ok {scan : Scan α} {cs rest : List Char} {x : α} (h : scan cs = .ok (x, rest))
    (next : α → Scan β) : (scan >>= next) cs = next x rest := by
  show (scan cs >>= fun p => next p.1 p.2) = next x rest
  rw [h]
  rfl

theorem map_eq_of_ok {scan : Scan α} {cs rest : List Char} {x : α} (h : scan cs = .ok (x, rest))
    (f : α → β) : (f <$> scan) cs = .ok (f x, rest) := by
  show (scan cs >>= fun p => pure (f p.1, p.2)) = _
  rw [h]
  rfl

theorem get_eq_ok (cs : List Char) : (get : Scan (List Char)) cs = .ok (cs, cs) := rfl

theorem pure_eq_ok (x : α) (cs : List Char) : (pure x : Scan α) cs = .ok (x, cs) := rfl

theorem peek_cons {c : Char} (h : isSpace c = false) (rest : List Char) :
    peek (c :: rest) = .ok (some c, c :: rest) := by
  rw [peek, List.dropWhile_cons_of_neg (by simp [h])]
  rfl

theorem advance_cons (c : Char) (rest : List Char) : advance (c :: rest) = .ok ((), rest) := rfl

theorem word_append (ws rest : List Char) : word ws (ws ++ rest) = .ok ((), rest) := by
  induction ws with
  | nil => rfl
  | cons w ws ih =>
    rw [List.cons_append, word]
    exact (if_pos rfl).trans ih

/-! ### Quoted texts -/

theorem hexValue?_hexDigitChar (n : Nat) : hexValue? (hexDigitChar n) = some (n % 16) := by
  have hall : ∀ i : Fin 16, hexValue? (Nat.digitChar i) = some i.val := by decide
  exact hall ⟨n % 16, Nat.mod_lt _ (by decide)⟩

theorem fourHexDigits_control {n : Nat} (h : n < 0x20) (rest : List Char) :
    fourHexDigits ('0' :: '0' :: hexDigitChar (n / 16) :: hexDigitChar n :: rest) = .ok n := by
  have hzero : hexValue? '0' = some 0 := by decide
  rw [fourHexDigits, hzero, hexValue?_hexDigitChar, hexValue?_hexDigitChar]
  show Except.ok (4096 * 0 + 256 * 0 + 16 * (n / 16 % 16) + n % 16) = Except.ok n
  congr 1
  omega

/-- A control is no surrogate, so its escape stands for it alone. -/
theorem escape_control {c : Char} (h : c.toNat < 0x20) (rest : List Char) :
    escape ('u' :: '0' :: '0' :: hexDigitChar (c.toNat / 16) :: hexDigitChar c.toNat :: rest) =
      .ok (c, 5) := by
  rw [escape, fourHexDigits_control h]
  show (if 0xDC00 ≤ c.toNat ∧ c.toNat ≤ 0xDFFF then _
    else if 0xD800 ≤ c.toNat ∧ c.toNat ≤ 0xDBFF then _
    else Except.ok (Char.ofNat c.toNat, 5)) = _
  rw [if_neg (by omega), if_neg (by omega), Char.ofNat_toNat]

theorem quotedFrom_skip (done code rest : List Char) :
    quotedFrom done (code ++ rest) code.length = quotedFrom done rest 0 := by
  induction code with
  | nil => rfl
  | cons c code ih => exact ih

theorem quotedFrom_escape (code : List Char) {c : Char} {rest : List Char}
    (h : escape (code ++ rest) = .ok (c, code.length)) (done : List Char) :
    quotedFrom done ('\\' :: (code ++ rest)) 0 = quotedFrom (c :: done) rest 0 := by
  rw [quotedFrom, if_neg (by decide), if_pos rfl, h]
  exact quotedFrom_skip (c :: done) code rest

theorem quotedFrom_printChar (c : Char) (done rest : List Char) :
    quotedFrom done (printChar c ++ rest) 0 = quotedFrom (c :: done) rest 0 := by
  rw [printChar]
  split
  · subst c
    exact quotedFrom_escape ['"'] rfl done
  split
  · subst c
    exact quotedFrom_escape ['\\'] rfl done
  split
  · subst c
    exact quotedFrom_escape ['b'] rfl done
  split
  · subst c
    exact quotedFrom_escape ['f'] rfl done
  split
  · subst c
    exact quotedFrom_escape ['n'] rfl done
  split
  · subst c
    exact quotedFrom_escape ['r'] rfl done
  split
  · subst c
    exact quotedFrom_escape ['t'] rfl done
  split
  · rename_i hcontrol
    exact quotedFrom_escape ['u', '0', '0', _, _] (escape_control hcontrol rest) done
  · rename_i hquote hbackslash _ _ _ _ _ hcontrol
    show quotedFrom done (c :: rest) 0 = _
    rw [quotedFrom, if_neg hquote, if_neg hbackslash, if_neg hcontrol]

theorem quotedFrom_flatMap_printChar (cs done rest : List Char) :
    quotedFrom done (cs.flatMap printChar ++ '"' :: rest) 0 =
      .ok (String.ofList (done.reverse ++ cs), rest) := by
  induction cs generalizing done with
  | nil =>
    rw [List.append_nil]
    rfl
  | cons c cs ih =>
    rw [List.flatMap_cons, List.append_assoc, quotedFrom_printChar, ih, List.reverse_cons,
      List.append_assoc]
    rfl

theorem quotedText_printText (s : String) (rest : List Char) :
    quotedText (printText s ++ rest) = .ok (s, rest) := by
  have hopened : (printText s ++ rest).tail = s.toList.flatMap printChar ++ '"' :: rest := by
    simp [printText]
  rw [quotedText, hopened, quotedFrom_flatMap_printChar, List.reverse_nil, List.nil_append,
    String.ofList_toList]

/-! ### Whole numbers -/

/-- What follows does not go on with a number that stands before it. -/
def EndsNumber (rest : List Char) : Prop :=
  ∀ c ∈ rest.head?, c.isDigit = false ∧ c ≠ '.' ∧ c ≠ 'e' ∧ c ≠ 'E'

theorem endsNumber_nil : EndsNumber [] := by
  intro c hc
  cases hc

theorem endsNumber_cons {c : Char} (h : c.isDigit = false ∧ c ≠ '.' ∧ c ≠ 'e' ∧ c ≠ 'E')
    (rest : List Char) : EndsNumber (c :: rest) := by
  intro x hx
  obtain rfl := Option.some.inj hx
  exact h

namespace EndsNumber

variable {rest : List Char}

theorem head?_ne (h : EndsNumber rest) : rest.head?.any Char.isDigit = false ∧
    rest.head? ≠ some '.' ∧ rest.head? ≠ some 'e' ∧ rest.head? ≠ some 'E' := by
  cases rest with
  | nil => simp
  | cons c cs => simpa using h c rfl

theorem takeWhile_isDigit (h : EndsNumber rest) : rest.takeWhile Char.isDigit = [] := by
  cases rest with
  | nil => rfl
  | cons c cs => rw [List.takeWhile_cons_of_neg (by simp [(h c rfl).1])]

theorem dropWhile_isDigit (h : EndsNumber rest) : rest.dropWhile Char.isDigit = rest := by
  cases rest with
  | nil => rfl
  | cons c cs => rw [List.dropWhile_cons_of_neg (by simp [(h c rfl).1])]

end EndsNumber

theorem digitsValue_toDigits (n : Nat) : digitsValue (Nat.toDigits 10 n) = n := by
  rw [digitsValue, ← Nat.ofDigitChars_eq_foldl]
  exact Nat.ofDigitChars_ten_toDigits

theorem isDigit_of_mem_toDigits {n : Nat} {c : Char} (h : c ∈ Nat.toDigits 10 n) :
    c.isDigit = true :=
  Nat.isDigit_of_mem_toDigits (by decide) (by decide) h

theorem exists_toDigits_eq_digit_cons (n : Nat) :
    ∃ d ds, Nat.toDigits 10 n = d :: ds ∧ d.isDigit = true := by
  obtain ⟨d, ds, hds⟩ := List.exists_cons_of_ne_nil (Nat.toDigits_ne_nil (b := 10) (n := n))
  refine ⟨d, ds, hds, isDigit_of_mem_toDigits (n := n) ?_⟩
  rw [hds]
  exact List.mem_cons_self

/-- Only zero is written with a zero in front. -/
theorem exists_toDigits_eq_cons {n : Nat} (h : n ≠ 0) :
    ∃ c cs, Nat.toDigits 10 n = c :: cs ∧ c ≠ '0' := by
  induction n using Nat.strongRecOn with
  | ind n ih =>
    rw [Nat.toDigits_eq_if (by decide)]
    split
    · rename_i hlt
      have hall : ∀ i : Fin 10, i.val ≠ 0 → Nat.digitChar i ≠ '0' := by decide
      exact ⟨_, [], rfl, hall ⟨n, hlt⟩ h⟩
    · obtain ⟨c, cs, hcs, hc⟩ := ih (n / 10) (by omega) (by omega)
      rw [hcs]
      exact ⟨c, cs ++ [Nat.digitChar (n % 10)], rfl, hc⟩

theorem integerDigits_toDigits (n : Nat) {rest : List Char} (h : EndsNumber rest) :
    integerDigits (Nat.toDigits 10 n ++ rest) = .ok (Nat.toDigits 10 n, rest) := by
  by_cases hn : n = 0
  · subst hn
    show (if rest.head?.any Char.isDigit = true then _ else Except.ok (['0'], rest)) = _
    rw [h.head?_ne.1]
    rfl
  · obtain ⟨c, cs, hcs, hc⟩ := exists_toDigits_eq_cons hn
    have hall : ∀ x ∈ c :: cs, x.isDigit = true := by
      intro x hx
      rw [← hcs] at hx
      exact isDigit_of_mem_toDigits hx
    have htake : (c :: cs ++ rest).takeWhile Char.isDigit = c :: cs := by
      rw [List.takeWhile_append_of_pos hall, h.takeWhile_isDigit, List.append_nil]
    have hdrop : (c :: cs ++ rest).dropWhile Char.isDigit = rest := by
      rw [List.dropWhile_append_of_pos hall, h.dropWhile_isDigit]
    rw [hcs, List.cons_append, integerDigits, if_neg hc, if_pos (hall c List.mem_cons_self),
      digits, ← List.cons_append, htake, hdrop]

section

variable {n : Int} (fits : -0x8000000000000000 ≤ n ∧ n < 0x10000000000000000)

include fits in
theorem numberOf?_whole :
    numberOf? (n < 0) (Nat.toDigits 10 n.natAbs) [] none = some (.whole n fits) := by
  have hsign : (decide (n < 0) && n.natAbs == 0) = false := by
    by_cases hn : n < 0
    · have habs : n.natAbs ≠ 0 := by omega
      simp [habs]
    · simp [hn]
  have hn : (if decide (n < 0) = true then -(n.natAbs : Int) else n.natAbs) = n := by
    by_cases hneg : n < 0
    · rw [if_pos (decide_eq_true hneg)]
      omega
    · rw [if_neg (by simpa using hneg)]
      omega
  have hnumber : Number.ofInt? n = some (.whole n fits) := dif_pos fits
  rw [numberOf?, digitsValue_toDigits, hsign, hn, hnumber]
  rfl

theorem print_of_neg (hn : n < 0) :
    (Number.whole n fits).print = '-' :: Nat.toDigits 10 n.natAbs := by
  have habs : (-n).toNat = n.natAbs := by omega
  rw [Number.print, Int.toString_eq_repr, Int.repr_eq_if, if_neg (by omega), String.toList_append,
    Nat.toList_repr, habs]
  rfl

theorem print_of_nonneg (hn : ¬ n < 0) :
    (Number.whole n fits).print = Nat.toDigits 10 n.natAbs := by
  have habs : n.toNat = n.natAbs := by omega
  rw [Number.print, Int.toString_eq_repr, Int.repr_eq_if, if_pos (by omega), Nat.toList_repr, habs]

/-- The first character of a number: the parser chooses by it. -/
theorem exists_print_eq_cons :
    ∃ c cs, (Number.whole n fits).print = c :: cs ∧ (c = '-' || c.isDigit) = true := by
  by_cases hn : n < 0
  · exact ⟨'-', _, print_of_neg fits hn, rfl⟩
  · obtain ⟨d, ds, hds, hdigit⟩ := exists_toDigits_eq_digit_cons n.natAbs
    refine ⟨d, ds, ?_, ?_⟩
    · rw [print_of_nonneg fits hn, hds]
    · rw [hdigit, Bool.or_true]

theorem head?_toDigits_append_ne (n : Nat) (rest : List Char) :
    (Nat.toDigits 10 n ++ rest).head? ≠ some '-' := by
  obtain ⟨d, ds, hds, hdigit⟩ := exists_toDigits_eq_digit_cons n
  rw [hds]
  intro h
  obtain rfl := Option.some.inj h
  cases hdigit

theorem number_print {rest : List Char} (h : EndsNumber rest) :
    number ((Number.whole n fits).print ++ rest) = .ok (.whole n fits, rest) := by
  obtain ⟨-, hpoint, he, hE⟩ := h.head?_ne
  have hpower : ¬ (decide (rest.head? = some 'e') || decide (rest.head? = some 'E')) = true := by
    simp [he, hE]
  have hresult := numberOf?_whole fits
  rw [number, bind_eq_of_ok (get_eq_ok _)]
  by_cases hn : n < 0
  · have hsign : ('-' :: (Nat.toDigits 10 n.natAbs ++ rest)).head? = some '-' := rfl
    rw [decide_eq_true hn] at hresult
    rw [print_of_neg fits hn, List.cons_append]
    simp only [decide_eq_true hsign]
    rw [if_pos hsign, bind_eq_of_ok (advance_cons '-' _),
      bind_eq_of_ok (integerDigits_toDigits _ h), bind_eq_of_ok (get_eq_ok _), if_neg hpoint,
      bind_eq_of_ok (pure_eq_ok _ _), bind_eq_of_ok (get_eq_ok _), if_neg hpower,
      bind_eq_of_ok (pure_eq_ok _ _), hresult]
    rfl
  · have hsign := head?_toDigits_append_ne n.natAbs rest
    rw [decide_eq_false hn] at hresult
    rw [print_of_nonneg fits hn]
    simp only [decide_eq_false hsign]
    rw [if_neg hsign, bind_eq_of_ok (integerDigits_toDigits _ h), bind_eq_of_ok (get_eq_ok _),
      if_neg hpoint, bind_eq_of_ok (pure_eq_ok _ _), bind_eq_of_ok (get_eq_ok _), if_neg hpower,
      bind_eq_of_ok (pure_eq_ok _ _), hresult]
    rfl

end

/-! ### Separators -/

/-- What is written before an element or a member: a comma, unless it is the first. -/
def comma (first : Bool) : List Char := if first then [] else [',']

theorem colon_cons (rest : List Char) : colon (':' :: rest) = .ok ((), rest) := by
  rw [colon, bind_eq_of_ok (peek_cons rfl rest)]
  rfl

theorem endList_cons (rest : List Char) : endList (']' :: rest) = .ok ((), rest) := by
  rw [endList, bind_eq_of_ok (peek_cons rfl rest)]
  rfl

theorem endObject_cons (rest : List Char) : endObject ('\x7d' :: rest) = .ok ((), rest) := by
  rw [endObject, bind_eq_of_ok (peek_cons rfl rest)]
  rfl

theorem moreItems_end (first : Bool) (rest : List Char) :
    moreItems first (']' :: rest) = .ok (false, ']' :: rest) := by
  rw [moreItems, bind_eq_of_ok (peek_cons rfl rest)]
  rfl

theorem moreMembers_end (first : Bool) (rest : List Char) :
    moreMembers first ('\x7d' :: rest) = .ok (false, '\x7d' :: rest) := by
  rw [moreMembers, bind_eq_of_ok (peek_cons rfl rest)]
  rfl

theorem moreItems_comma (first : Bool) {c : Char} (hspace : isSpace c = false) (hend : c ≠ ']')
    (rest : List Char) :
    moreItems first (comma first ++ c :: rest) = .ok (true, c :: rest) := by
  cases first with
  | true =>
    show moreItems true (c :: rest) = _
    rw [moreItems, bind_eq_of_ok (peek_cons hspace rest)]
    simp only [if_true]
    rfl
  | false =>
    show moreItems false (',' :: c :: rest) = _
    rw [moreItems, bind_eq_of_ok (peek_cons rfl _)]
    show (advance >>= fun _ => peek >>= _) _ = _
    rw [bind_eq_of_ok (advance_cons _ _), bind_eq_of_ok (peek_cons hspace rest)]
    simp only
    rfl

theorem moreMembers_comma (first : Bool) (name : String) (rest : List Char) :
    moreMembers first (comma first ++ (printText name ++ rest)) =
      .ok (true, printText name ++ rest) := by
  cases first with
  | true =>
    show moreMembers true (printText name ++ rest) = _
    rw [printText, List.cons_append, List.cons_append, moreMembers,
      bind_eq_of_ok (peek_cons rfl _)]
    rfl
  | false =>
    show moreMembers false (',' :: (printText name ++ rest)) = _
    rw [printText, List.cons_append, List.cons_append, moreMembers,
      bind_eq_of_ok (peek_cons rfl _)]
    show (advance >>= fun _ => peek >>= _) _ = _
    rw [bind_eq_of_ok (advance_cons _ _), bind_eq_of_ok (peek_cons rfl _)]
    rfl

end Scan

end MeetingRoom.Json
