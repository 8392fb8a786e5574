/-
  MeetingRoom/Session/Action.lean
  ===============================
  **What can happen to a session, what it asks for, and what is noted.**

  An action changes the session.  An effect is a request to the server that an
  action asks for.  A notice is written to the log: something was odd, or
  failed, but the session goes on.
-/
import MeetingRoom.Event.Envelope
import MeetingRoom.Session.State
import MeetingRoom.Text.Utf8

namespace MeetingRoom

/-- Everything that can change a session. -/
inductive Action where
  | setSymbol (symbol : String)
  | clearHistory
  /-- Clears the transcript here and asks the server to do the same. -/
  | requestClearHistory
  | addMessage (message : Message)
  | setBusy (busy : Bool)
  | setStatus (text : String)
  /-- The local user asks a question; `timestamp` is the time of asking. -/
  | submitQuery (query author timestamp : String)
  | submissionFailed (error : String)
  /-- The server sent an event. -/
  | ingest (event : Event)

/-- A request to the server. -/
inductive Effect where
  /-- Start a meeting; what follows arrives on the event stream. -/
  | startSession (symbol query : String)
  /-- Remove the server's transcript for a symbol. -/
  | clearRemoteHistory (symbol : String)
deriving DecidableEq, Repr

def Effect.action : Effect → String
  | .startSession _ _ => "start meeting"
  | .clearRemoteHistory _ => "clear history"

/-- An event that was ignored: its type and, for a tool event, its step. -/
structure DroppedEvent where
  typeName : String
  stepId : Option String
deriving DecidableEq, Repr

/-! ### Notices -/

/-- How serious a notice is. -/
inductive Severity where
  | warning
  | error
deriving DecidableEq, Repr

def Severity.name : Severity → String
  | .warning => "WARN"
  | .error => "ERROR"

/-- What is written to the log.  What is merely under way, or went well, is not. -/
inductive Notice where
  | stepRedeclared (stepId : String) (previous current : Int64)
  | eventDropped (event : DroppedEvent)
  | frameUndecodable (why : DecodeError)
  | frameNotText (why : Text.Utf8.Flaw)
  | streamEndedEarly
  | streamFailed (error : String)
  | startFailed (symbol error : String)
  | clearFailed (symbol error : String)
  | eventsIgnored (unknown orphaned : Nat)
deriving DecidableEq

namespace Notice

/-- How serious a notice is: only what the user asked for fails, at once or later. -/
def severity : Notice → Severity
  | .streamFailed _ | .startFailed _ _ | .clearFailed _ _ => .error
  | _ => .warning

def message : Notice → String
  | .stepRedeclared _ _ _ => "step id re-declared by another plan, replacing its live state"
  | .eventDropped _ => "dropping meeting event"
  | .frameUndecodable _ => "dropping undecodable meeting frame"
  | .frameNotText _ => "dropping non-UTF-8 meeting frame"
  | .streamEndedEarly => "meeting stream ended before the meeting finished"
  | .streamFailed _ => "meeting stream failed"
  | .startFailed _ _ => "failed to start meeting"
  | .clearFailed _ _ => "failed to clear remote history"
  | .eventsIgnored _ _ => "some events could not be applied"

def details : Notice → List (String × String)
  | .stepRedeclared stepId previous current =>
    [("step_id", stepId), ("previous_plan", toString previous.toInt),
      ("plan_id", toString current.toInt)]
  | .eventDropped e => [("event_type", e.typeName), ("step_id", e.stepId.getD "-")]
  | .frameUndecodable why => [("error", why.message)]
  | .frameNotText why => [("error", why.message)]
  | .streamEndedEarly => []
  | .streamFailed error => [("error", error)]
  | .startFailed symbol error | .clearFailed symbol error =>
    [("symbol_key", symbol), ("error", error)]
  | .eventsIgnored unknown orphaned =>
    [("unknown", toString unknown), ("orphaned", toString orphaned)]

end Notice

end MeetingRoom
