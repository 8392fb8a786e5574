/-
  MeetingRoom/Server/Client.lean
  ==============================
  **Requests to the server and the streams it answers with.**

  A request counts as carried out if its status says so.  A meeting is started
  either by a request or, as the host of a session does, by opening its event
  stream: all events of the meeting arrive there.
-/
import MeetingRoom.Server.Address
import MeetingRoom.Server.Network
import MeetingRoom.Server.Target
import MeetingRoom.Session.Host

namespace MeetingRoom

/-! ### Requests -/

namespace RestRoot

/-- Sends a request.  Only the schemes of plain and secure requests are
    supported. -/
def send (net : Network) (method : Method) (url : Url) : Except TransportProblem HttpStatus :=
  if url.scheme = "http" ∨ url.scheme = "https" then
    match url.checkTarget with
    | .ok () => net.request method url
    | .error _ => .error .targetInvalid
  else .error .unsupportedScheme

/-- Makes a request.  The user's name and password are not part of the address
    that is asked. -/
def call (net : Network) (method : Method) (action : String) (url : Url) :
    Except Failure Unit := do
  let url := url.withoutUser
  let answer ← (send net method url).mapError (.transport url.text)
  if answer.isSuccess then .ok () else .error (.status action answer)

/-- Asks the server for something by a request. -/
def perform (r : RestRoot) (net : Network) (e : Effect) : Except Failure Unit :=
  match e with
  | .startSession symbol query => do
    let pairs := [("symbol_key", symbol), ("query", query)]
    let url ← (r.endpoint "meeting/start" pairs).mapError .config
    call net .post e.action url
  | .clearRemoteHistory symbol => do
    let url ← (r.endpoint "meeting/history" [("symbol_key", symbol)]).mapError .config
    call net .delete e.action url

end RestRoot

/-! ### Event streams -/

/-- The number of the service behind an event stream: as given, or the standard
    one. -/
def streamPortNumber? (url : Url) : Option Nat :=
  match url.authority.bind Authority.portNumber with
  | some number => some number
  | none =>
    if url.scheme = "ws" then some 80 else if url.scheme = "wss" then some 443 else none

/-- Opens an event stream.  Only its own schemes are supported, but a server
    named with a number is contacted before that is noticed. -/
def openStream (net : Network) (url : Url) : Except SocketProblem Stream := do
  url.checkTarget.mapError .target
  if (streamPortNumber? url).isNone then .error .unsupportedScheme
  else
    let stream ← net.stream url
    if url.scheme = "ws" ∨ url.scheme = "wss" then .ok stream else .error .unsupportedScheme

/-! ### Server of a session -/

/-- Where a session's requests go: meetings are started by opening the event
    stream, and transcripts are cleared by a request. -/
structure Backend where
  wsBase : String
  rest : RestRoot
deriving DecidableEq, Repr

namespace Backend

def ofConfig (c : Config) : Except ConfigProblem Backend := do
  let wsBase ← c.wsBase
  .ok { wsBase, rest := .ofConfig c }

def start (b : Backend) (net : Network) (symbol query : String) : Except Failure Stream := do
  let url ← (meetingUrl b.wsBase symbol query).mapError .config
  (openStream net url).mapError .socket

/-- What the server says to the requests of a session. -/
def server (b : Backend) (net : Network) : Server
  | .startSession symbol query => (b.start net symbol query).map fun _ => ()
  | .clearRemoteHistory symbol => b.rest.perform net (.clearRemoteHistory symbol)

/-- What the stream that a request opened brings. -/
def delivery? (b : Backend) (net : Network) : Effect → Option Delivery
  | .startSession symbol query =>
    match b.start net symbol query with
    | .ok stream => some (forward none false stream.ending stream.frames)
    | .error _ => none
  | .clearRemoteHistory _ => none

/-- What the streams that some requests opened bring. -/
def deliveries (b : Backend) (net : Network) (calls : List Effect) : List Delivery :=
  calls.filterMap (b.delivery? net)

/-- All events that the streams of some requests bring. -/
def arrivals (b : Backend) (net : Network) (calls : List Effect) : List Event :=
  (b.deliveries net calls).flatMap Delivery.settled

end Backend

end MeetingRoom
