/-
  MeetingRoom/Server/Network.lean
  ===============================
  **What the network makes of requests and streams.**

  A network is given by its answers, so everything that the client does is a
  function of them.  A machine that is offline has the plainest network: every
  request fails for want of a way to the server.
-/
import MeetingRoom.Feed.Forward
import MeetingRoom.Url

namespace MeetingRoom

/-- The method of a request. -/
inductive Method where
  | get
  | post
  | delete
deriving DecidableEq, Repr

def Method.name : Method → String
  | .get => "GET"
  | .post => "POST"
  | .delete => "DELETE"

/-- The frames that a stream brings, and how it ends. -/
structure Stream where
  frames : List Frame := []
  ending : StreamEnd := .exhausted

/-- What comes back from the network. -/
structure Network where
  request : Method → Url → Except TransportProblem HttpStatus
  stream : Url → Except SocketProblem Stream

namespace Network

/-- Whether a name is known without a network: it is the machine itself or a
    numeric address, however that is written. -/
def isKnown (name : String) : Bool :=
  name.toLower == "localhost" || (!name.endsWith "." && (Ipv4.parse? name.toList).isSome)

/-- Whether a name can be asked for: its labels have 1 to 63 letters, digits,
    hyphens and underscores, it has 253 characters at most and no hyphen at its
    start.  One dot at the end is allowed. -/
def isAskable (name : List Char) : Bool :=
  let body := if name.getLast? == some '.' then name.dropLast else name
  let isLabel (label : List Char) : Bool :=
    !label.isEmpty && label.length ≤ 63 && label.all fun c => c.isAlphanum || c == '-' || c == '_'
  name.head? != some '-' && body.length ≤ 253 &&
    (body.isEmpty || (Text.pieces (· == '.') body).all isLabel)

/-- Why an offline machine does not reach an address of eight groups.  Addresses
    of four bytes in disguise and those of many machines have no route; for
    others there is no address to start from, and one of the local link has to
    say which link. -/
def groupsProblem (a : Ipv6) : ReachProblem :=
  let first := a.groups[0].toNat
  if a.groups.toList.take 6 = [0, 0, 0, 0, 0, 0xFFFF] ∨ 0xFF00 ≤ first then .noRoute
  else if 0xFE80 ≤ first ∧ first ≤ 0xFEBF then .scopeMissing
  else .noSource

/-- Why an offline machine does not reach a host. -/
def hostProblem : Host → ReachProblem
  | .empty | .ipv4 _ => .noRoute
  | .ipv6 a => groupsProblem a
  | .name s =>
    if isKnown s then .noRoute else if isAskable s.toList then .nameUnknown else .nameUnfit

/-- Why an offline machine does not reach an address. -/
def offlineProblem (url : Url) : ReachProblem :=
  match url.authority with
  | some a => hostProblem a.host
  | none => .noRoute

/-- The network of an offline machine. -/
def offline : Network where
  request _ url := .error (.unreachable (offlineProblem url))
  stream url := .error (.unreachable (offlineProblem url))

/-- A network whose server accepts everything and whose streams are all the
    same. -/
def replaying (stream : Stream) : Network where
  request _ _ := .ok { code := 200 }
  stream _ := .ok stream

end Network

end MeetingRoom
