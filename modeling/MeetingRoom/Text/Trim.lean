/-
  MeetingRoom/Text/Trim.lean
  ==========================
  **Trimming of texts, and which characters are blank.**

  A question typed at the prompt is trimmed of blank characters on both sides,
  and a base address of its closing slashes.  Both are one operation with a
  different test, written on the list of characters.

  Blank means the White_Space property of the character standard.  The zero
  width space, the byte order mark and the information separators (U+001C to
  U+001F) do not have it.
-/
namespace MeetingRoom.Text

/-! ### Dropping at the ends -/

/-- Drops the characters that pass `p` at the end of a list. -/
def dropEndWhile (p : Char → Bool) (cs : List Char) : List Char :=
  (cs.reverse.dropWhile p).reverse

/-- Drops the characters that pass `p` at both ends of a list. -/
def stripWhile (p : Char → Bool) (cs : List Char) : List Char :=
  dropEndWhile p (cs.dropWhile p)

/-- A text without the copies of `c` at its end. -/
def trimEnd (c : Char) (s : String) : String :=
  String.ofList (dropEndWhile (· == c) s.toList)

/-- A text without the copies of `c` at its start. -/
def trimStart (c : Char) (s : String) : String :=
  String.ofList (s.toList.dropWhile (· == c))

@[simp] theorem dropEndWhile_nil (p : Char → Bool) : dropEndWhile p [] = [] := rfl

theorem dropEndWhile_append_of_all (p : Char → Bool) (cs tail : List Char)
    (h : ∀ c ∈ tail, p c = true) : dropEndWhile p (cs ++ tail) = dropEndWhile p cs := by
  unfold dropEndWhile
  rw [List.reverse_append, List.dropWhile_append_of_pos]
  intro c hc
  exact h c (List.mem_reverse.1 hc)

/-! ### Blank characters -/

/-- The White_Space property of a character. -/
def isBlank (c : Char) : Bool :=
  let n := c.toNat
  (0x09 ≤ n && n ≤ 0x0D) || n == 0x20 || n == 0x85 || n == 0xA0 || n == 0x1680 ||
  (0x2000 ≤ n && n ≤ 0x200A) || n == 0x2028 || n == 0x2029 || n == 0x202F ||
  n == 0x205F || n == 0x3000

/-- A text without the blank characters at either end. -/
def trimBlank (s : String) : String :=
  String.ofList (stripWhile isBlank s.toList)

end MeetingRoom.Text
