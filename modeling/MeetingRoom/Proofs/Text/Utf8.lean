/-
  MeetingRoom/Proofs/Text/Utf8.lean
  =================================
  **Bytes are a text exactly if they encode one.**

  Decoding is written as a machine over the bytes, with the place and the length
  of the first flaw; encoding is the library's, one character after the other.
  The two agree (`Utf8.decode_eq_ok_iff`).  It is enough to see that a step takes
  exactly the encoding of one character, in both directions (`step_encode`,
  `utf8EncodeChar_of_step`); the bounds on the second byte are what excludes
  overlong forms, surrogates and numbers past the last character.
-/
import Mathlib.Tactic.SplitIfs
import MeetingRoom.Text.Utf8

namespace MeetingRoom.Text.Utf8

/-! ### First bytes -/

theorem following_two {first : UInt8} (h : 0xC2 ≤ first.toNat ∧ first.toNat ≤ 0xDF) :
    following first = some (0x80, 0xBF, 1) := by
  rw [following, if_pos h]

theorem following_three {first : UInt8} (h : 0xE0 ≤ first.toNat ∧ first.toNat ≤ 0xEF) :
    following first =
      some (if first.toNat = 0xE0 then 0xA0 else 0x80,
        if first.toNat = 0xED then 0x9F else 0xBF, 2) := by
  by_cases hlow : first.toNat = 0xE0
  · rw [following, if_neg (by omega), if_pos hlow, if_pos hlow, if_neg (by omega)]
  by_cases hhigh : first.toNat = 0xED
  · rw [following, if_neg (by omega), if_neg hlow, if_pos hhigh, if_neg hlow, if_pos hhigh]
  · rw [following, if_neg (by omega), if_neg hlow, if_neg hhigh, if_pos (by omega), if_neg hlow,
      if_neg hhigh]

theorem following_four {first : UInt8} (h : 0xF0 ≤ first.toNat ∧ first.toNat ≤ 0xF4) :
    following first =
      some (if first.toNat = 0xF0 then 0x90 else 0x80,
        if first.toNat = 0xF4 then 0x8F else 0xBF, 3) := by
  rw [following, if_neg (by omega), if_neg (by omega), if_neg (by omega), if_neg (by omega)]
  by_cases hlow : first.toNat = 0xF0
  · rw [if_pos hlow, if_pos hlow, if_neg (by omega)]
  by_cases hhigh : first.toNat = 0xF4
  · rw [if_neg hlow, if_neg (by omega), if_pos hhigh, if_neg hlow, if_pos hhigh]
  · rw [if_neg hlow, if_pos (by omega), if_neg hlow, if_neg hhigh]

theorem following_none {first : UInt8} (h : first.toNat < 0xC2 ∨ 0xF4 < first.toNat) :
    following first = none := by
  rw [following, if_neg (by omega), if_neg (by omega), if_neg (by omega), if_neg (by omega),
    if_neg (by omega), if_neg (by omega), if_neg (by omega)]

/-! ### One character -/

/-- A byte of the second kind: it continues a character. -/
theorem isTail_iff {b : UInt8} : isTail b = true ↔ 0x80 ≤ b.toNat ∧ b.toNat ≤ 0xBF := by
  simp [isTail]

theorem step_one {first : UInt8} (h : first.toNat < 0x80) (rest : List UInt8) :
    step first rest = .char (Char.ofNat first.toNat) 1 := by
  rw [step, if_pos h]

theorem step_two {first second : UInt8} (hfirst : 0xC2 ≤ first.toNat ∧ first.toNat ≤ 0xDF)
    (hsecond : 0x80 ≤ second.toNat ∧ second.toNat ≤ 0xBF) (rest : List UInt8) :
    step first (second :: rest) =
      .char (Char.ofNat (first.toNat % 32 * 64 + second.toNat % 64)) 2 := by
  rw [step, if_neg (by omega), following_two hfirst]
  dsimp only
  rw [if_neg (not_not_intro hsecond), if_pos rfl]
  rfl

theorem step_three {first second third : UInt8}
    (hfirst : 0xE0 ≤ first.toNat ∧ first.toNat ≤ 0xEF)
    (hsecond : (if first.toNat = 0xE0 then 0xA0 else 0x80) ≤ second.toNat ∧
      second.toNat ≤ if first.toNat = 0xED then 0x9F else 0xBF)
    (hthird : isTail third = true) (rest : List UInt8) :
    step first (second :: third :: rest) =
      .char (Char.ofNat
        (first.toNat % 16 * 4096 + second.toNat % 64 * 64 + third.toNat % 64)) 3 := by
  rw [step, if_neg (by omega), following_three hfirst]
  dsimp only
  rw [if_neg (not_not_intro hsecond), if_neg (by decide), if_neg (by simp [hthird]), if_pos rfl]
  rfl

theorem step_four {first second third fourth : UInt8}
    (hfirst : 0xF0 ≤ first.toNat ∧ first.toNat ≤ 0xF4)
    (hsecond : (if first.toNat = 0xF0 then 0x90 else 0x80) ≤ second.toNat ∧
      second.toNat ≤ if first.toNat = 0xF4 then 0x8F else 0xBF)
    (hthird : isTail third = true) (hfourth : isTail fourth = true) (rest : List UInt8) :
    step first (second :: third :: fourth :: rest) =
      .char (Char.ofNat
        (first.toNat % 8 * 262144 + second.toNat % 64 * 4096 + third.toNat % 64 * 64 +
          fourth.toNat % 64)) 4 := by
  rw [step, if_neg (by omega), following_four hfirst]
  dsimp only
  rw [if_neg (not_not_intro hsecond), if_neg (by decide), if_neg (by simp [hthird]),
    if_neg (by decide), if_neg (by simp [hfourth])]
  rfl

theorem toNat_ofNat_of_lt {n : Nat} (h : n < 256) : (UInt8.ofNat n).toNat = n := by
  rw [UInt8.toNat_ofNat']
  exact Nat.mod_eq_of_lt h

/-- A step reads the encoding of a character as that character. -/
theorem step_encode (c : Char) (rest : List UInt8) :
    ∃ first tail, String.utf8EncodeChar c = first :: tail ∧
      step first (tail ++ rest) = .char c (tail.length + 1) := by
  have hvalid : c.toNat < 0xD800 ∨ 0xDFFF < c.toNat ∧ c.toNat < 0x110000 := c.valid
  have hchar : Char.ofNat c.toNat = c := c.ofNat_toNat
  have hval : c.val.toNat = c.toNat := rfl
  unfold String.utf8EncodeChar
  rw [hval]
  generalize c.toNat = v at *
  dsimp only
  -- one case for each number of bytes; the value of the bytes together is `v` again
  split_ifs with h1 h2 h3
  · have ha := toNat_ofNat_of_lt (n := v) (by omega)
    refine ⟨_, [], rfl, ?_⟩
    rw [List.nil_append, step_one (by omega), ha, hchar]
    rfl
  · have ha := toNat_ofNat_of_lt (n := v / 64 % 32 + 192) (by omega)
    have hb := toNat_ofNat_of_lt (n := v % 64 + 128) (by omega)
    have hv : (v / 64 % 32 + 192) % 32 * 64 + (v % 64 + 128) % 64 = v := by omega
    refine ⟨_, _, rfl, ?_⟩
    rw [List.singleton_append, step_two (by omega) (by omega), ha, hb, hv, hchar]
    rfl
  · have ha := toNat_ofNat_of_lt (n := v / 4096 % 16 + 224) (by omega)
    have hb := toNat_ofNat_of_lt (n := v / 64 % 64 + 128) (by omega)
    have hd := toNat_ofNat_of_lt (n := v % 64 + 128) (by omega)
    have hv : (v / 4096 % 16 + 224) % 16 * 4096 + (v / 64 % 64 + 128) % 64 * 64 +
        (v % 64 + 128) % 64 = v := by omega
    refine ⟨_, _, rfl, ?_⟩
    rw [List.cons_append, List.singleton_append,
      step_three (by omega) (by rw [ha, hb]; split_ifs <;> omega) (isTail_iff.2 (by omega)),
      ha, hb, hd, hv, hchar]
    rfl
  · have ha := toNat_ofNat_of_lt (n := v / 262144 % 8 + 240) (by omega)
    have hb := toNat_ofNat_of_lt (n := v / 4096 % 64 + 128) (by omega)
    have hd := toNat_ofNat_of_lt (n := v / 64 % 64 + 128) (by omega)
    have he := toNat_ofNat_of_lt (n := v % 64 + 128) (by omega)
    have hv : (v / 262144 % 8 + 240) % 8 * 262144 + (v / 4096 % 64 + 128) % 64 * 4096 +
        (v / 64 % 64 + 128) % 64 * 64 + (v % 64 + 128) % 64 = v := by omega
    refine ⟨_, _, rfl, ?_⟩
    rw [List.cons_append, List.cons_append, List.singleton_append,
      step_four (by omega) (by rw [ha, hb]; split_ifs <;> omega) (isTail_iff.2 (by omega))
        (isTail_iff.2 (by omega)), ha, hb, hd, he, hv, hchar]
    rfl

theorem utf8EncodeChar_ofNat {n : Nat} (h : n < 0xD800 ∨ 0xDFFF < n ∧ n < 0x110000) :
    String.utf8EncodeChar (Char.ofNat n) =
      if n ≤ 0x7F then [UInt8.ofNat n]
      else if n ≤ 0x7FF then [UInt8.ofNat (n / 64 % 32 + 192), UInt8.ofNat (n % 64 + 128)]
      else if n ≤ 0xFFFF then
        [UInt8.ofNat (n / 4096 % 16 + 224), UInt8.ofNat (n / 64 % 64 + 128),
          UInt8.ofNat (n % 64 + 128)]
      else
        [UInt8.ofNat (n / 262144 % 8 + 240), UInt8.ofNat (n / 4096 % 64 + 128),
          UInt8.ofNat (n / 64 % 64 + 128), UInt8.ofNat (n % 64 + 128)] := by
  have hval : (Char.ofNat n).val.toNat = n := by
    rw [Char.ofNat, dif_pos h]
    rfl
  unfold String.utf8EncodeChar
  rw [hval]

theorem ofNat_eq_of_toNat {n : Nat} {b : UInt8} (h : n = b.toNat) : UInt8.ofNat n = b := by
  rw [h, UInt8.ofNat_toNat]

/-- What follows a first byte that asks for more bytes. -/
theorem exists_tails_of_step {first : UInt8} {rest : List UInt8} {c : Char} {size : Nat}
    {low high more : Nat} (hfirst : ¬ first.toNat < 0x80)
    (hfollowing : following first = some (low, high, more)) (h : step first rest = .char c size) :
    ∃ second rest₂, rest = second :: rest₂ ∧ (low ≤ second.toNat ∧ second.toNat ≤ high) ∧
      (more = 1 ∨ ∃ third rest₃, rest₂ = third :: rest₃ ∧ isTail third = true ∧
        (more = 2 ∨ ∃ fourth rest₄, rest₃ = fourth :: rest₄ ∧ isTail fourth = true)) := by
  rw [step, if_neg hfirst, hfollowing] at h
  match rest with
  | [] => cases h
  | second :: rest =>
    dsimp only at h
    split at h
    · cases h
    rename_i hsecond
    refine ⟨second, rest, rfl, Classical.not_not.1 hsecond, ?_⟩
    split at h
    · exact .inl ‹_›
    match rest with
    | [] => cases h
    | third :: rest =>
      dsimp only at h
      split at h
      · cases h
      rename_i hthird
      refine .inr ⟨third, rest, rfl, by simpa using hthird, ?_⟩
      split at h
      · exact .inl ‹_›
      match rest with
      | [] => cases h
      | fourth :: rest =>
        dsimp only at h
        split at h
        · cases h
        rename_i hfourth
        exact .inr ⟨fourth, rest, rfl, by simpa using hfourth⟩

/-- A step takes a whole encoding. -/
theorem utf8EncodeChar_of_step {first : UInt8} {rest : List UInt8} {c : Char} {size : Nat}
    (h : step first rest = .char c size) :
    ∃ tail rest', rest = tail ++ rest' ∧ size = tail.length + 1 ∧
      String.utf8EncodeChar c = first :: tail := by
  by_cases hone : first.toNat < 0x80
  · rw [step_one hone] at h
    cases h
    refine ⟨[], rest, rfl, rfl, ?_⟩
    rw [utf8EncodeChar_ofNat (by omega), if_pos (by omega), ofNat_eq_of_toNat rfl]
  by_cases htwo : 0xC2 ≤ first.toNat ∧ first.toNat ≤ 0xDF
  · obtain ⟨second, rest', rfl, hsecond, -⟩ := exists_tails_of_step hone (following_two htwo) h
    rw [step_two htwo hsecond] at h
    cases h
    refine ⟨[second], rest', rfl, rfl, ?_⟩
    rw [utf8EncodeChar_ofNat (by omega), if_neg (by omega), if_pos (by omega),
      ofNat_eq_of_toNat (b := first) (by omega), ofNat_eq_of_toNat (b := second) (by omega)]
  by_cases hthree : 0xE0 ≤ first.toNat ∧ first.toNat ≤ 0xEF
  · obtain ⟨second, _, rfl, hsecond, hmore⟩ := exists_tails_of_step hone (following_three hthree) h
    rcases hmore with hmore | ⟨third, rest', rfl, hthird, -⟩
    · cases hmore
    rw [step_three hthree hsecond hthird] at h
    cases h
    refine ⟨[second, third], rest', rfl, rfl, ?_⟩
    have htail := isTail_iff.1 hthird
    -- the bounds on the second byte exclude overlong forms and surrogates
    split_ifs at hsecond <;>
      rw [utf8EncodeChar_ofNat (by omega), if_neg (by omega), if_neg (by omega),
        if_pos (by omega), ofNat_eq_of_toNat (b := first) (by omega),
        ofNat_eq_of_toNat (b := second) (by omega), ofNat_eq_of_toNat (b := third) (by omega)]
  by_cases hfour : 0xF0 ≤ first.toNat ∧ first.toNat ≤ 0xF4
  · obtain ⟨second, _, rfl, hsecond, hmore⟩ := exists_tails_of_step hone (following_four hfour) h
    rcases hmore with hmore | ⟨third, _, rfl, hthird, hmore | ⟨fourth, rest', rfl, hfourth⟩⟩
    · cases hmore
    · cases hmore
    rw [step_four hfour hsecond hthird hfourth] at h
    cases h
    refine ⟨[second, third, fourth], rest', rfl, rfl, ?_⟩
    have htail := isTail_iff.1 hthird
    have hlast := isTail_iff.1 hfourth
    -- the bounds on the second byte exclude overlong forms and numbers past the last character
    split_ifs at hsecond <;>
      rw [utf8EncodeChar_ofNat (by omega), if_neg (by omega), if_neg (by omega),
        if_neg (by omega), ofNat_eq_of_toNat (b := first) (by omega),
        ofNat_eq_of_toNat (b := second) (by omega), ofNat_eq_of_toNat (b := third) (by omega),
        ofNat_eq_of_toNat (b := fourth) (by omega)]
  · rw [step, if_neg hone, following_none (by omega)] at h
    cases h

/-! ### Whole texts -/

theorem decodeFrom_append (skipped rest : List UInt8) (index : Nat) :
    decodeFrom index (skipped ++ rest) skipped.length =
      decodeFrom (index + skipped.length) rest 0 := by
  induction skipped generalizing index with
  | nil => rfl
  | cons b skipped ih =>
    rw [List.cons_append, List.length_cons, decodeFrom, ih]
    congr 1
    omega

theorem decodeFrom_encode (cs : List Char) (index : Nat) :
    decodeFrom index (cs.flatMap String.utf8EncodeChar) 0 = .ok cs := by
  induction cs generalizing index with
  | nil => rfl
  | cons c rest ih =>
    obtain ⟨first, tail, hencode, hstep⟩ := step_encode c (rest.flatMap String.utf8EncodeChar)
    rw [List.flatMap_cons, hencode, List.cons_append, decodeFrom, hstep]
    dsimp only
    rw [Nat.add_sub_cancel, decodeFrom_append, ih]
    rfl

/-- The bytes that are not skipped encode what is read. -/
theorem eq_encode_of_decodeFrom {bytes : List UInt8} {index skip : Nat} {cs : List Char}
    (h : decodeFrom index bytes skip = .ok cs) :
    bytes.drop skip = cs.flatMap String.utf8EncodeChar := by
  induction bytes generalizing index skip cs with
  | nil =>
    rw [decodeFrom] at h
    cases h
    rw [List.drop_nil]
    rfl
  | cons first rest ih =>
    cases skip with
    | succ skip => exact ih h
    | zero =>
      rw [decodeFrom] at h
      cases hstep : step first rest with
      | invalid size =>
        rw [hstep] at h
        cases h
      | incomplete =>
        rw [hstep] at h
        cases h
      | char c size =>
        rw [hstep] at h
        obtain ⟨tail, rest', rfl, rfl, hencode⟩ := utf8EncodeChar_of_step hstep
        dsimp only at h
        rw [Nat.add_sub_cancel] at h
        cases hrest : decodeFrom (index + 1) (tail ++ rest') tail.length with
        | error flaw =>
          rw [hrest] at h
          cases h
        | ok more =>
          rw [hrest] at h
          cases h
          have hmore := ih hrest
          rw [List.drop_left] at hmore
          rw [List.drop_zero, List.flatMap_cons, hencode, List.cons_append, ← hmore]

/-- **Decoding undoes encoding, and reads nothing else.** -/
theorem decode_eq_ok_iff {bytes : List UInt8} {s : String} :
    decode bytes = .ok s ↔ bytes = encode s := by
  constructor
  · intro h
    cases hchars : decodeFrom 0 bytes 0 with
    | error flaw =>
      rw [decode, hchars] at h
      cases h
    | ok cs =>
      rw [decode, hchars] at h
      cases h
      have hbytes := eq_encode_of_decodeFrom hchars
      rw [List.drop_zero] at hbytes
      rw [encode, String.toList_ofList, hbytes]
  · rintro rfl
    rw [decode, encode, decodeFrom_encode]
    exact congrArg Except.ok s.ofList_toList

end MeetingRoom.Text.Utf8
