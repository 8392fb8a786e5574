/-
  MeetingRoom/Server/Target.lean
  ==============================
  **Which addresses can stand in a request.**

  A request has stricter rules than an address as such: it needs a host, has a
  limited length, and its authority may not have every character, nor escapes
  outside the user's name and password.
-/
import MeetingRoom.Failure
import MeetingRoom.Url

namespace MeetingRoom

/-! ### Authorities -/

/-- What was seen in an authority so far. -/
structure AuthorityScan where
  /-- The colons that may stand before the number. -/
  colons : Nat := 0
  opened : Bool := false
  closed : Bool := false
  /-- An escape that is not in the user's name or password. -/
  escaped : Bool := false
  /-- The last character is the sign after the user. -/
  atSign : Bool := false

namespace AuthorityScan

/-- A character that an authority may have. -/
def isAllowed (c : Char) : Bool := c.isAlphanum || "!$&'()*+,-.;=_~".toList.contains c

def step (s : AuthorityScan) (c : Char) : Except TargetProblem AuthorityScan :=
  let t := { s with atSign := false }
  match c with
  | ':' => if 8 ≤ s.colons then .error .authorityInvalid else .ok { t with colons := s.colons + 1 }
  | '[' => if s.escaped || s.opened then .error .authorityInvalid else .ok { t with opened := true }
  | ']' =>
    if !s.opened || s.closed then .error .authorityInvalid
    else .ok { t with closed := true, colons := 0, escaped := false }
  | '@' => .ok { t with colons := 0, escaped := false, atSign := true }
  | '%' => .ok { t with escaped := true }
  | c => if isAllowed c then .ok t else .error .characterInvalid

/-- Whether the characters seen are a whole authority. -/
def finish (s : AuthorityScan) : Except TargetProblem Unit :=
  if s.opened != s.closed || 1 < s.colons || s.atSign || s.escaped then .error .authorityInvalid
  else .ok ()

end AuthorityScan

def checkAuthority (cs : List Char) : Except TargetProblem Unit := do
  (← cs.foldlM AuthorityScan.step {}).finish

/-! ### Addresses -/

namespace Url

/-- The largest length of an address in a request. -/
def targetLimit : Nat := 65534

/-- The largest length of its scheme. -/
def schemeLimit : Nat := 64

/-- Checks whether an address can stand in a request.  Where no authority is
    marked as such, the text up to the path is looked at as one. -/
def checkTarget (u : Url) : Except TargetProblem Unit :=
  if targetLimit < u.text.length then .error .tooLong
  else match u.authority with
    | none => do
      checkAuthority (u.text.toList.takeWhile fun c => c != '/' && c != '?' && c != '#')
      .error .formInvalid
    | some a =>
      if schemeLimit < u.scheme.length then .error .schemeTooLong
      else do
        checkAuthority a.text
        if a.text.isEmpty then .error .formInvalid else .ok ()

end Url

end MeetingRoom
