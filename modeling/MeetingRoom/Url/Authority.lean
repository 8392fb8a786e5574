/-
  MeetingRoom/Url/Authority.lean
  ==============================
  **Who answers at an address.**

  An authority has a user, a host and a number of the service there.  The last
  `@` separates the user from the host.  A number that is the standard one of
  the scheme is left out, and so is an empty one.
-/
import MeetingRoom.Url.Host

namespace MeetingRoom

/-- How a scheme is treated: as one of the web with the standard number of its
    service, as that of files, or as unknown. -/
inductive SchemeKind where
  | web (portNumber : Nat)
  | file
  | other
deriving DecidableEq, Repr

namespace SchemeKind

def ofName (name : String) : SchemeKind :=
  if name = "http" ∨ name = "ws" then .web 80
  else if name = "https" ∨ name = "wss" then .web 443
  else if name = "ftp" then .web 21
  else if name = "file" then .file
  else .other

/-- Whether a backslash counts as a slash. -/
def isSpecial : SchemeKind → Bool
  | .other => false
  | _ => true

def isSlash (k : SchemeKind) (c : Char) : Bool := c == '/' || (k.isSpecial && c == '\\')

end SchemeKind

/-- User, host and the number of the service. -/
structure Authority where
  user : List Char := []
  password : List Char := []
  host : Host := .empty
  portNumber : Option Nat := none
deriving DecidableEq, Repr

namespace Authority

open Text (escape cut)

/-- The text of user and password, with the sign after it. -/
def userText (a : Authority) : List Char :=
  if a.user.isEmpty && a.password.isEmpty then []
  else a.user ++ (if a.password.isEmpty then [] else ':' :: a.password) ++ ['@']

/-- The text of the number, with the sign before it. -/
def portText (a : Authority) : List Char :=
  match a.portNumber with
  | some n => ':' :: (toString n).toList
  | none => []

def text (a : Authority) : List Char := a.userText ++ a.host.text ++ a.portText

/-- Whether an escaped text stands for a text. -/
def isTextual (escaped : List Char) : Bool :=
  (Text.Utf8.decode (Text.unescape (Text.Utf8.encode (String.ofList escaped)))).isOk

/-- Whether there is a user whose name is a text; without a name the password
    has to be one. -/
def isUserText (a : Authority) : Bool :=
  isTextual a.user && (!a.user.isEmpty || (!a.password.isEmpty && isTextual a.password))

/-- A character that is escaped in a user's name or password. -/
def isEscaped (c : Char) : Bool :=
  c.toNat < 0x20 || 0x7F ≤ c.toNat || " \"<>`#?{}/:;=@[\\]^|".toList.contains c

def cutUser? (cs : List Char) : Option (List Char × List Char) :=
  match cut (· == '@') cs.reverse with
  | (after, some before) => some (before.reverse, after.reverse)
  | (_, none) => none

/-- Cuts at the first colon that is not between brackets. -/
def cutPort (inside : Bool) : List Char → List Char × Option (List Char)
  | [] => ([], none)
  | c :: rest =>
    if c == ':' && !inside then ([], some rest)
    else
      let inside := if c == '[' then true else if c == ']' then false else inside
      let (host, digits) := cutPort inside rest
      (c :: host, digits)

/-- Cuts an authority where a backslash follows its colon: the number ends there,
    also for schemes to which a backslash is no slash. -/
def cutTail (cs : List Char) : List Char × List Char :=
  let hostText := match cutUser? cs with
    | some (_, rest) => rest
    | none => cs
  match cutPort false hostText with
  | (_, some digits) =>
    let tail := digits.dropWhile (· != '\\')
    (cs.take (cs.length - tail.length), tail)
  | (_, none) => (cs, [])

/-- The number that digits spell; nothing for the standard one. -/
def portNumber? (standard : Option Nat) (cs : List Char) : Except UrlProblem (Option Nat) :=
  if cs.isEmpty then .ok none
  else if cs.all Char.isDigit then
    let n := cs.foldl (fun n c => 10 * n + (c.toNat - '0'.toNat)) 0
    if 65535 < n then .error .portInvalid
    else .ok (if some n = standard then none else some n)
  else .error .portInvalid

/-- The host and the number in a text, for a scheme with a standard number or
    another one. -/
def hostAndPort (standard : Option Nat) (cs : List Char) :
    Except UrlProblem (Host × Option Nat) := do
  let (hostText, portText) := cutPort false cs
  let host ← if standard.isSome then Host.parseWeb hostText else Host.parsePlain hostText
  match portText with
  | none => .ok (host, none)
  | some digits =>
    if host = .empty then .error .emptyHost
    else do
      let number ← portNumber? standard digits
      .ok (host, number)

def parse (standard : Option Nat) (cs : List Char) : Except UrlProblem Authority :=
  match cutUser? cs with
  | none => do
    let (host, portNumber) ← hostAndPort standard cs
    .ok { host, portNumber }
  | some (userText, rest) =>
    if userText.isEmpty && rest.isEmpty then .error .emptyHost
    else do
      let (name, secret) := cut (· == ':') userText
      let user := escape isEscaped name
      let password := escape isEscaped (secret.getD [])
      let (host, portNumber) ← hostAndPort standard rest
      if host = .empty ∧ ¬ (user.isEmpty && password.isEmpty) then .error .emptyHost
      else .ok { user, password, host, portNumber }

def parseFile (cs : List Char) : Except UrlProblem Authority :=
  if cs.isEmpty then .ok {}
  else do
    let host ← Host.parseWeb cs
    .ok { host := if host = .name "localhost" then .empty else host }

end Authority

end MeetingRoom
