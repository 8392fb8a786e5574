/-
  MeetingRoom/Watch/ErrorText.lean
  ================================
  **How a failure is reported at the end of a run.**

  The report says what was being done and, below it, the causes from the
  outside in.  Several causes are numbered; further lines of a cause are
  indented like its first.
-/
namespace MeetingRoom.Watch

def alignRight (width : Nat) (s : String) : String :=
  String.ofList (List.replicate (width - s.length) ' ') ++ s

def causeText (number : Option Nat) (cause : String) : String :=
  let (start, indent) := match number with
    | some n => (alignRight 5 (toString n) ++ ": ", "       ")
    | none => ("    ", "    ")
  start ++ ("\n" ++ indent).intercalate (cause.splitOn "\n")

def causesText (causes : List String) : String :=
  match causes with
  | [cause] => "\n" ++ causeText none cause
  | _ => String.join (causes.mapIdx fun i cause => "\n" ++ causeText (some i) cause)

/-- The report of what was being done and why it failed. -/
def errorText (deed : String) (causes : List String) : String :=
  "Error: " ++ deed ++
    (if causes.isEmpty then "" else "\n\nCaused by:" ++ causesText causes) ++ "\n"

end MeetingRoom.Watch
