/-
  MeetingRoom/Session/Host.lean
  =============================
  **Carrying out what a session asks for.**

  The host of a session passes requests to the server and feeds the events
  that arrive into the store.  What the server says to a request is a function
  given from outside, so a run of the host is a pure computation.

  Pumping applies queued events one after the other and stops after a terminal
  event that leaves the session idle.
-/
import MeetingRoom.Failure
import MeetingRoom.Session.Store

namespace MeetingRoom

/-- What the server says to a request. -/
abbrev Server := Effect → Except Failure Unit

/-- What an operation of the host leads to. -/
structure Turn where
  store : Store
  /-- The requests that were made. -/
  calls : List Effect := []
  result : Except Failure Unit := .ok ()
  notices : List Notice := []

/-- What pumping leads to. -/
structure Pumped where
  store : Store
  /-- How many events were applied. -/
  applied : Nat := 0
  /-- Each applied event, with the store just after it. -/
  observed : List (Event × Store) := []
  /-- The events that stay in the queue. -/
  left : List Event := []
  notices : List Notice := []

namespace Store

def noticeOfFailure (f : Failure) : Effect → Notice
  | .startSession symbol _ => .startFailed symbol f.message
  | .clearRemoteHistory symbol => .clearFailed symbol f.message

/-- Makes requests in order, up to the first that fails.  A meeting that does
    not start ends the turn. -/
def perform (server : Server) (s : Store) : List Effect → Turn
  | [] => { store := s }
  | e :: rest =>
    match server e with
    | .ok () =>
      let turn := perform server s rest
      { turn with calls := e :: turn.calls }
    | .error f =>
      let s := match e with
        | .startSession _ _ => (s.dispatch (.submissionFailed f.message)).store
        | .clearRemoteHistory _ => s
      { store := s, calls := [e], result := .error f, notices := [noticeOfFailure f e] }

/-- Dispatches an action and makes the requests it asks for. -/
def carryOut (server : Server) (s : Store) (a : Action) : Turn :=
  let done := s.dispatch a
  let turn := done.store.perform server done.effects
  { turn with notices := done.notices ++ turn.notices }

def switchSymbol (s : Store) (symbol : String) : Turn :=
  let done := s.dispatch (.setSymbol symbol)
  { store := done.store, notices := done.notices }

/-- Asks a question.  Only the server's acknowledgement is awaited; the
    meeting itself arrives as events. -/
def submit (server : Server) (s : Store) (query timestamp : String) : Turn :=
  s.carryOut server (.submitQuery query s.author timestamp)

/-- Clears the transcript here and at the server. -/
def clearHistory (server : Server) (s : Store) : Turn :=
  s.carryOut server .requestClearHistory

def pump (s : Store) : List Event → Pumped
  | [] => { store := s }
  | e :: rest =>
    let done := s.ingest e
    if e.isTerminal && !done.store.session.busy then
      { store := done.store
        applied := 1
        observed := [(e, done.store)]
        left := rest
        notices := done.notices }
    else
      let more := pump done.store rest
      { more with
        applied := more.applied + 1
        observed := (e, done.store) :: more.observed
        notices := done.notices ++ more.notices }

end Store

/-! ### Runs -/

/-- An operation of the host, with what the server would say to its request. -/
inductive HostOp where
  | switchSymbol (symbol : String)
  | submit (query timestamp : String) (server : Server)
  | clearHistory (server : Server)
  | ingest (event : Event)
  | pump (queue : List Event)

/-- One operation of the host. -/
def Store.host (s : Store) : HostOp → Turn
  | .switchSymbol symbol => s.switchSymbol symbol
  | .submit query timestamp server => s.submit server query timestamp
  | .clearHistory server => s.clearHistory server
  | .ingest e =>
    let done := s.ingest e
    { store := done.store, notices := done.notices }
  | .pump queue =>
    let pumped := s.pump queue
    { store := pumped.store, notices := pumped.notices }

/-- A run of the host: the turns of its operations, in order. -/
def Store.hostRun (s : Store) : List HostOp → List Turn
  | [] => []
  | op :: rest =>
    let turn := s.host op
    turn :: turn.store.hostRun rest

end MeetingRoom
