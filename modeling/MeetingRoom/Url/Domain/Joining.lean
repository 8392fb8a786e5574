/-
  MeetingRoom/Url/Domain/Joining.lean
  ===================================
  **Joiners between the characters of a label.**

  Two characters without a shape of their own say whether their neighbours are
  joined: U+200D asks for it and U+200C forbids it.  A label may have them only
  where they make a difference: after a sign that silences a vowel, and U+200C
  also between two letters that would be joined otherwise.
-/
import MeetingRoom.Url.Domain.Direction
import MeetingRoom.Url.Domain.Normal

namespace MeetingRoom.Domain

/-- The letters that are joined to the letter after them. -/
def joiningNext : Table :=
  Table.ofText "
620 626 628 62a-62e 633-63f 641-647 649-64a 66e-66f 679-687 69a-6bf 6c1-6c2 6cc 6ce 6d0-6d1
6fa-6fc 6ff 712-714 71a-71d 71f-727 729 72b 72d-72e 74e-758 75c-76a 76d-770 772 775-777
77a-77f 7ca-7ea 841-845 848 84a-853 855 860 862-865 868 886 889-88d 88f 8a0-8a9 8af-8b0
8b3-8b8 8ba-8c8 1807 1820-1878 1887-18a8 18aa a840-a872 10ac0-10ac4 10acd 10ad3-10adc
10ade-10ae0 10aeb-10aee 10b80 10b82 10b86-10b88 10b8a-10b8b 10b8d 10b90 10bad-10bae
10d00-10d21 10d23 10ec3-10ec4 10ec6-10ec7 10f30-10f32 10f34-10f44 10f51-10f53 10f70-10f73
10f76-10f81 10fb0 10fb2-10fb3 10fb8 10fbb-10fbc 10fbe-10fbf 10fc1 10fc4 10fca-10fcb
1e922-1e943"

/-- The letters that are joined to the letter before them. -/
def joiningPrevious : Table :=
  Table.ofText "
620 622-63f 641-64a 66e-66f 671-673 679-6d3 6d5 6ee-6ef 6fa-6fc 6ff 710 712-72f 74d-77f
7ca-7ea 840-858 860 862-865 867-882 886 889-88f 8a0-8ac 8ae-8c8 1807 1820-1878 1887-18a8 18aa
a840-a871 10ac0-10ac5 10ac7 10ac9-10aca 10ace-10ad6 10ad8-10ae1 10ae4 10aeb-10aef 10b80-10b91
10ba9-10bae 10d01-10d23 10ec2-10ec4 10ec6-10ec7 10f30-10f44 10f51-10f54 10f70-10f81 10fb0
10fb2-10fb6 10fb8-10fbf 10fc1-10fc4 10fc9-10fca 1e922-1e943"

/-- What does not stand between two letters that are joined: marks without a
    place of their own, and a few others. -/
def isTransparent (n : Nat) : Bool :=
  nonspacingMarks.has n || [0xCBF, 0xCC6, 0x11A07, 0x11A08, 0x11C3F, 0x1E94B].contains n

/-- Whether the next letter of a text is in a table. -/
def nextIn (t : Table) (text : List Nat) : Bool :=
  (text.dropWhile isTransparent).head?.any t.has

def isJoiner (n : Nat) : Bool := n == 0x200C || n == 0x200D

/-- Whether a joiner may stand between two texts, of which the first stands in
    reverse order. -/
def joinerFits (before : List Nat) (n : Nat) (after : List Nat) : Bool :=
  match before with
  | [] => false
  | m :: _ =>
    markClass m == 9 ||
      (n == 0x200C && nextIn joiningNext before && nextIn joiningPrevious after)

/-- Whether all joiners of a text may stand there, after what comes before it in
    reverse order. -/
def joinersFit (before : List Nat) : List Nat → Bool
  | [] => true
  | n :: rest => (!isJoiner n || joinerFits before n rest) && joinersFit (n :: before) rest

end MeetingRoom.Domain
