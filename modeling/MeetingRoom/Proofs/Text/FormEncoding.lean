/-
  MeetingRoom/Proofs/Text/FormEncoding.lean
  =========================================
  **Pairs that are written as a form are read back.**

  A written name or value holds only plain characters, plus signs and percent
  escapes (`isWritten_of_mem_encodeText`), so it holds no separator, and cutting at
  separators finds the written pairs again.

  Within one text the plus sign is read before the escapes are undone.  That is
  harmless because a plus sign of the text itself is written as an escape, and no
  byte of an escape is a plus sign (`unescape_written`).
-/
import MeetingRoom.Proofs.Text.Utf8
import MeetingRoom.Text.FormEncoding

namespace MeetingRoom.Text

/-! ### Hexadecimal digits -/

theorem isAlphanum_upperHexDigit {n : Nat} (h : n < 16) : (upperHexDigit n).isAlphanum = true := by
  have hall : ∀ i : Fin 16, (upperHexDigit i).isAlphanum = true := by decide
  exact hall ⟨n, h⟩

/-- The byte of a digit has the digit's value. -/
theorem hexByteValue?_upperHexDigit {n : Nat} (h : n < 16) :
    hexByteValue? (UInt8.ofNat (upperHexDigit n).toNat) = some n := by
  have hall : ∀ i : Fin 16, hexByteValue? (UInt8.ofNat (upperHexDigit i).toNat) = some i.val := by
    decide
  exact hall ⟨n, h⟩

/-! ### Separators -/

theorem pieces_of_none {sep : Char → Bool} {p : List Char} (h : ∀ c ∈ p, sep c = false) :
    pieces sep p = [p] := by
  induction p with
  | nil => rfl
  | cons c rest ih =>
    rw [pieces, if_neg (by simp [h c List.mem_cons_self]),
      ih fun x hx => h x (List.mem_cons_of_mem _ hx)]

theorem pieces_append_cons {sep : Char → Bool} {p : List Char} (h : ∀ c ∈ p, sep c = false)
    {s : Char} (hs : sep s = true) (rest : List Char) :
    pieces sep (p ++ s :: rest) = p :: pieces sep rest := by
  induction p with
  | nil => rw [List.nil_append, pieces, if_pos hs]
  | cons c p ih =>
    rw [List.cons_append, pieces, if_neg (by simp [h c List.mem_cons_self]),
      ih fun x hx => h x (List.mem_cons_of_mem _ hx)]

theorem cut_append_cons {sep : Char → Bool} {p : List Char} (h : ∀ c ∈ p, sep c = false)
    {s : Char} (hs : sep s = true) (rest : List Char) :
    cut sep (p ++ s :: rest) = (p, some rest) := by
  have hkept : ∀ c ∈ p, (!sep c) = true := by
    intro c hc
    rw [h c hc]
    rfl
  have hdrop : (p ++ s :: rest).dropWhile (fun c => !sep c) = s :: rest := by
    rw [List.dropWhile_append_of_pos hkept, List.dropWhile_cons_of_neg (by simp [hs])]
  have htake : (p ++ s :: rest).takeWhile (fun c => !sep c) = p := by
    rw [List.takeWhile_append_of_pos hkept, List.takeWhile_cons_of_neg (by simp [hs]),
      List.append_nil]
  rw [cut, hdrop, htake]

namespace FormEncoding

/-! ### Written characters -/

/-- A character that can stand in a written name or value. -/
def isWritten (c : Char) : Bool := isPlain c || c == '+' || c == '%'

theorem isWritten_of_mem_escapeByte {b : UInt8} {c : Char} (h : c ∈ escapeByte b) :
    isWritten c = true := by
  have hb := b.toNat_lt
  have hdigit : ∀ n, n < 16 → isWritten (upperHexDigit n) = true := by
    intro n hn
    simp [isWritten, isPlain, isAlphanum_upperHexDigit hn]
  simp only [escapeByte, List.mem_cons, List.not_mem_nil, or_false] at h
  rcases h with rfl | rfl | rfl
  · decide
  · exact hdigit _ (by omega)
  · exact hdigit _ (by omega)

theorem isWritten_of_mem_encodeText {s : String} {c : Char} (h : c ∈ encodeText s) :
    isWritten c = true := by
  obtain ⟨x, -, hx⟩ := List.mem_flatMap.1 h
  rw [encodeChar] at hx
  split at hx
  · obtain rfl := List.mem_singleton.1 hx
    decide
  · split at hx
    · rename_i hplain
      obtain rfl := List.mem_singleton.1 hx
      simp [isWritten, hplain]
    · obtain ⟨b, -, hb⟩ := List.mem_flatMap.1 hx
      exact isWritten_of_mem_escapeByte hb

theorem ne_of_isWritten {c other : Char} (hc : isWritten c = true)
    (hother : isWritten other = false) : c ≠ other := by
  rintro rfl
  rw [hother] at hc
  cases hc

/-! ### One text -/

/-- The bytes of written characters, with plus signs read as spaces. -/
def writtenBytes (cs : List Char) : List UInt8 :=
  (cs.flatMap String.utf8EncodeChar).map fun b => if b = 0x2B then 0x20 else b

theorem writtenBytes_append (cs ds : List Char) :
    writtenBytes (cs ++ ds) = writtenBytes cs ++ writtenBytes ds := by
  rw [writtenBytes, List.flatMap_append, List.map_append]
  rfl

theorem utf8EncodeChar_of_lt {c : Char} (h : c.toNat < 0x80) :
    String.utf8EncodeChar c = [UInt8.ofNat c.toNat] := by
  have hval : c.val.toNat = c.toNat := rfl
  unfold String.utf8EncodeChar
  rw [hval]
  exact if_pos (by omega)

theorem bounds_of_isPlain {c : Char} (h : isPlain c = true) :
    c.toNat < 0x80 ∧ c.toNat ≠ 0x25 ∧ c.toNat ≠ 0x2B := by
  simp only [isPlain, Bool.or_eq_true, beq_iff_eq] at h
  rcases h with (((h | rfl) | rfl) | rfl) | rfl
  · have hval : c.val.toNat = c.toNat := rfl
    -- the ranges of capitals, small letters and digits
    change ((decide (65 ≤ c.val ∧ c.val ≤ 90) || (decide (97 ≤ c.val) && decide (c.val ≤ 122))) ||
      (decide (48 ≤ c.val) && decide (c.val ≤ 57))) = true at h
    simp only [Bool.or_eq_true, Bool.and_eq_true, decide_eq_true_eq, UInt32.le_iff_toNat_le,
      UInt32.reduceToNat, hval] at h
    omega
  all_goals decide

theorem writtenBytes_of_isPlain {c : Char} (h : isPlain c = true) :
    writtenBytes [c] = [UInt8.ofNat c.toNat] := by
  obtain ⟨hlt, -, hplus⟩ := bounds_of_isPlain h
  have hbyte : UInt8.ofNat c.toNat ≠ 0x2B := by
    intro heq
    apply hplus
    rw [← Utf8.toNat_ofNat_of_lt (show c.toNat < 256 by omega), heq]
    rfl
  rw [writtenBytes, List.flatMap_singleton, utf8EncodeChar_of_lt hlt, List.map_singleton,
    if_neg hbyte]

/-- A byte that is no percent sign stands for itself. -/
theorem unescape_cons_of_ne {b : UInt8} (h : b ≠ 0x25) (rest : List UInt8) :
    unescape (b :: rest) = b :: unescape rest := by
  match rest with
  | [] => rfl
  | [_] => rfl
  | high :: low :: rest =>
    rw [unescape, escaped?, if_neg h]

theorem unescape_escapeByte (b : UInt8) (rest : List UInt8) :
    unescape (writtenBytes (escapeByte b) ++ rest) = b :: unescape rest := by
  have hb := b.toNat_lt
  have hhigh : b.toNat / 16 < 16 := by omega
  have hlow : b.toNat % 16 < 16 := by omega
  have hdigit : ∀ {n}, n < 16 → isPlain (upperHexDigit n) = true := by
    intro n hn
    simp [isPlain, isAlphanum_upperHexDigit hn]
  have hbytes : writtenBytes (escapeByte b) =
      [0x25, UInt8.ofNat (upperHexDigit (b.toNat / 16)).toNat,
        UInt8.ofNat (upperHexDigit (b.toNat % 16)).toNat] := by
    show writtenBytes (['%'] ++ ([upperHexDigit _] ++ [upperHexDigit _])) = _
    rw [writtenBytes_append, writtenBytes_append, writtenBytes_of_isPlain (hdigit hhigh),
      writtenBytes_of_isPlain (hdigit hlow)]
    rfl
  have hvalue : UInt8.ofNat (16 * (b.toNat / 16) + b.toNat % 16) = b :=
    Utf8.ofNat_eq_of_toNat (Nat.div_add_mod b.toNat 16)
  rw [hbytes]
  simp only [List.cons_append, List.nil_append]
  rw [unescape, escaped?, if_pos rfl, hexByteValue?_upperHexDigit hhigh,
    hexByteValue?_upperHexDigit hlow]
  simp only [Option.bind_eq_bind, Option.bind_some, hvalue]

theorem unescape_escapeBytes (bs rest : List UInt8) :
    unescape (writtenBytes (bs.flatMap escapeByte) ++ rest) = bs ++ unescape rest := by
  induction bs with
  | nil => rfl
  | cons b bs ih =>
    rw [List.flatMap_cons, writtenBytes_append, List.append_assoc, unescape_escapeByte, ih,
      List.cons_append]

theorem unescape_encodeChar (c : Char) (rest : List UInt8) :
    unescape (writtenBytes (encodeChar c) ++ rest) = String.utf8EncodeChar c ++ unescape rest := by
  rw [encodeChar]
  split
  · rename_i hspace
    subst hspace
    show unescape (0x20 :: rest) = [0x20] ++ unescape rest
    rw [unescape_cons_of_ne (by decide)]
    rfl
  · split
    · rename_i hplain
      obtain ⟨hlt, hpercent, -⟩ := bounds_of_isPlain hplain
      have hbyte : UInt8.ofNat c.toNat ≠ 0x25 := by
        intro heq
        apply hpercent
        rw [← Utf8.toNat_ofNat_of_lt (show c.toNat < 256 by omega), heq]
        rfl
      rw [writtenBytes_of_isPlain hplain, utf8EncodeChar_of_lt hlt]
      exact unescape_cons_of_ne hbyte rest
    · exact unescape_escapeBytes (String.utf8EncodeChar c) rest

theorem unescape_written (cs : List Char) :
    unescape (writtenBytes (cs.flatMap encodeChar)) = cs.flatMap String.utf8EncodeChar := by
  induction cs with
  | nil => rfl
  | cons c cs ih =>
    rw [List.flatMap_cons, writtenBytes_append, unescape_encodeChar, ih, List.flatMap_cons]

theorem decodeText_encodeText (s : String) : decodeText (encodeText s) = .ok s := by
  have hbytes : Utf8.encode (String.ofList (encodeText s)) =
      (encodeText s).flatMap String.utf8EncodeChar := by
    rw [Utf8.encode, String.toList_ofList]
  rw [decodeText, hbytes]
  exact Utf8.decode_eq_ok_iff.2 (unescape_written s.toList)

/-! ### Pairs -/

theorem decodePair_encodePair (p : String × String) : decodePair (encodePair p) = .ok p := by
  have hcut : cut (· == '=') (encodePair p) = (encodeText p.1, some (encodeText p.2)) :=
    cut_append_cons (fun c hc => beq_eq_false_iff_ne.2
      (ne_of_isWritten (isWritten_of_mem_encodeText hc) (by decide))) rfl _
  rw [decodePair, hcut]
  simp only [Option.getD_some, decodeText_encodeText]
  rfl

theorem isWritten_or_eq_of_mem_encodePair {p : String × String} {c : Char}
    (h : c ∈ encodePair p) : isWritten c = true ∨ c = '=' := by
  rcases List.mem_append.1 h with h | h
  · exact .inl (isWritten_of_mem_encodeText h)
  · rcases List.mem_cons.1 h with rfl | h
    · exact .inr rfl
    · exact .inl (isWritten_of_mem_encodeText h)

theorem ne_ampersand_of_mem_encodePair {p : String × String} {c : Char} (h : c ∈ encodePair p) :
    (c == '&') = false := by
  rw [beq_eq_false_iff_ne]
  rcases isWritten_or_eq_of_mem_encodePair h with hc | rfl
  · exact ne_of_isWritten hc (by decide)
  · decide

theorem encodePair_ne_nil (p : String × String) : encodePair p ≠ [] := by
  simp [encodePair]

theorem append_of_ne_nil {before : List Char} (h : before ≠ []) (ps : List (String × String)) :
    append before ps = before ++ ps.flatMap fun p => '&' :: encodePair p := by
  induction ps generalizing before with
  | nil => rw [append, List.flatMap_nil, List.append_nil]
  | cons p rest ih =>
    have hbefore : before.isEmpty = false := by simpa using h
    rw [append, hbefore, if_neg (by simp), ih (by simp), List.flatMap_cons, List.append_assoc]

theorem encode_cons (p : String × String) (rest : List (String × String)) :
    encode (p :: rest) = encodePair p ++ rest.flatMap fun p => '&' :: encodePair p :=
  append_of_ne_nil (encodePair_ne_nil p) rest

/-- The ampersands of a form are those between its pairs. -/
theorem pieces_encode_cons (p : String × String) (rest : List (String × String)) :
    pieces (· == '&') (encode (p :: rest)) = (p :: rest).map encodePair := by
  rw [encode_cons]
  induction rest generalizing p with
  | nil =>
    rw [List.flatMap_nil, List.append_nil,
      pieces_of_none fun c hc => ne_ampersand_of_mem_encodePair hc]
    rfl
  | cons next rest ih =>
    rw [List.flatMap_cons, List.cons_append,
      pieces_append_cons (fun c hc => ne_ampersand_of_mem_encodePair hc) rfl, ih]
    rfl

/-- **A form is read back as the pairs it was written for.** -/
theorem decode_encode (ps : List (String × String)) : decode (encode ps) = .ok ps := by
  cases ps with
  | nil => rfl
  | cons p rest =>
    have hkept : ((p :: rest).map encodePair).filter (!·.isEmpty) = (p :: rest).map encodePair := by
      rw [List.filter_eq_self]
      intro cs hcs
      obtain ⟨q, -, rfl⟩ := List.mem_map.1 hcs
      simpa using encodePair_ne_nil q
    rw [decode, pieces_encode_cons, hkept]
    generalize p :: rest = all
    induction all with
    | nil => rfl
    | cons q all ih =>
      rw [List.map_cons, List.mapM_cons, decodePair_encodePair, ih]
      rfl

/-- No character of a form ends a query. -/
theorem ne_hash_of_mem_encode {ps : List (String × String)} {c : Char} (h : c ∈ encode ps) :
    c ≠ '#' := by
  have hpair : ∀ p : String × String, c ∈ encodePair p → c ≠ '#' := by
    intro p hp
    rcases isWritten_or_eq_of_mem_encodePair hp with hc | rfl
    · exact ne_of_isWritten hc (by decide)
    · decide
  cases ps with
  | nil => cases h
  | cons p rest =>
    rw [encode_cons] at h
    rcases List.mem_append.1 h with h | h
    · exact hpair p h
    · obtain ⟨q, -, hq⟩ := List.mem_flatMap.1 h
      rcases List.mem_cons.1 hq with rfl | hq
      · decide
      · exact hpair q hq

end FormEncoding

end MeetingRoom.Text
