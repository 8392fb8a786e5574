/-
  MeetingRoom/Url/Host.lean
  =========================
  **The host of an address.**

  A host is a name or a numeric address.  For the schemes of the web a name is
  brought to its plain form, and read as a numeric address if it ends in a
  number; for other schemes it is kept as it is written.
-/
import MeetingRoom.Text.Percent
import MeetingRoom.Url.Domain
import MeetingRoom.Url.Ipv4
import MeetingRoom.Url.Ipv6

namespace MeetingRoom

/-- Why a text is no address. -/
inductive UrlProblem where
  | noScheme
  | emptyHost
  | portInvalid
  | ipv4Invalid
  | ipv6Invalid
  | domainInvalid
  | hostCharacterInvalid
deriving DecidableEq, Repr

def UrlProblem.message : UrlProblem → String
  | .noScheme => "relative URL without a base"
  | .emptyHost => "empty host"
  | .portInvalid => "invalid port number"
  | .ipv4Invalid => "invalid IPv4 address"
  | .ipv6Invalid => "invalid IPv6 address"
  | .domainInvalid => "invalid international domain name"
  | .hostCharacterInvalid => "invalid domain character"

/-- The host of an address. -/
inductive Host where
  | empty
  | name (text : String)
  | ipv4 (address : Ipv4)
  | ipv6 (address : Ipv6)
deriving DecidableEq, Repr

namespace Host

open Text (escape unescape)

def text : Host → List Char
  | .empty => []
  | .name s => s.toList
  | .ipv4 a => a.text
  | .ipv6 a => '[' :: a.text ++ [']']

/-- A numeric address between brackets; `cs` is what follows the first one. -/
def bracketed (cs : List Char) : Except UrlProblem Host :=
  match cs.getLast?, Ipv6.parse? cs.dropLast with
  | some ']', some a => .ok (.ipv6 a)
  | _, _ => .error .ipv6Invalid

/-- A control character, or one outside the plain range. -/
def isControl (c : Char) : Bool := c.toNat < 0x20 || 0x7F ≤ c.toNat

/-- A character that a host as it is written may not contain. -/
def isBarred (c : Char) : Bool := "\x00\t\n\r #/:<>?@[\\]^|".toList.contains c

/-- The host that a text names, for the schemes of the web. -/
def parseWeb (cs : List Char) : Except UrlProblem Host :=
  match cs with
  | [] => .error .emptyHost
  | '[' :: rest => bracketed rest
  | cs =>
    match Domain.plain? (unescape (Text.Utf8.encode (String.ofList cs))) with
    | none => .error .domainInvalid
    | some [] => .error .emptyHost
    | some plain =>
      if Ipv4.isMeant plain then
        match Ipv4.parse? plain with
        | some a => .ok (.ipv4 a)
        | none => .error .ipv4Invalid
      else .ok (.name (String.ofList plain))

/-- The host that a text names, for other schemes. -/
def parsePlain (cs : List Char) : Except UrlProblem Host :=
  match cs with
  | [] => .ok .empty
  | '[' :: rest => bracketed rest
  | cs =>
    if cs.any isBarred then .error .hostCharacterInvalid
    else .ok (.name (String.ofList (escape isControl cs)))

end Host

end MeetingRoom
