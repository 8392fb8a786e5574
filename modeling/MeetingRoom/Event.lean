/-
  MeetingRoom/Event.lean
  ======================
  **The events of a meeting.**

  Ten kinds of events are known by name.  An event of any other name is kept
  as unknown, so that a newer producer does not break an older reader; by its
  proof an unknown event never has one of the ten names.
-/
import MeetingRoom.Event.Payload
import MeetingRoom.Message
import MeetingRoom.Report

namespace MeetingRoom

open Json (Codec Problem Value)

/-! ### Kinds -/

/-- The known kinds of events. -/
inductive EventKind where
  | status
  | message
  | planGenerated
  | toolStart
  | toolComplete
  | toolError
  | stateChange
  | error
  | report
  | finished
deriving DecidableEq, Repr

instance : Named EventKind where
  all := [.status, .message, .planGenerated, .toolStart, .toolComplete, .toolError, .stateChange,
    .error, .report, .finished]
  name
    | .status => "status"
    | .message => "message"
    | .planGenerated => "plan_generated"
    | .toolStart => "tool_start"
    | .toolComplete => "tool_complete"
    | .toolError => "tool_error"
    | .stateChange => "state_change"
    | .error => "error"
    | .report => "report"
    | .finished => "finished"
  mem_all x := by cases x <;> decide
  name_injective x y h := by cases x <;> cases y <;> first | rfl | exact absurd h (by decide)

/-! ### Events -/

/-- Everything the producer of a meeting can send. -/
inductive Event where
  | status (payload : StatusUpdate)
  | message (payload : Message)
  | planGenerated (payload : Plan)
  | toolStart (payload : ToolStart)
  | toolComplete (payload : ToolCompletion)
  | toolError (payload : ToolFailure)
  | stateChange (payload : ActivityChange)
  | error (payload : ErrorReport)
  | report (payload : Report)
  | finished (payload : Closing)
  | unknown (typeName : String) (unlisted : (Named.ofName? typeName : Option EventKind) = none)

namespace Event

def kind? : Event → Option EventKind
  | .status _ => some .status
  | .message _ => some .message
  | .planGenerated _ => some .planGenerated
  | .toolStart _ => some .toolStart
  | .toolComplete _ => some .toolComplete
  | .toolError _ => some .toolError
  | .stateChange _ => some .stateChange
  | .error _ => some .error
  | .report _ => some .report
  | .finished _ => some .finished
  | .unknown _ _ => none

def typeName : Event → String
  | .status _ => Named.name EventKind.status
  | .message _ => Named.name EventKind.message
  | .planGenerated _ => Named.name EventKind.planGenerated
  | .toolStart _ => Named.name EventKind.toolStart
  | .toolComplete _ => Named.name EventKind.toolComplete
  | .toolError _ => Named.name EventKind.toolError
  | .stateChange _ => Named.name EventKind.stateChange
  | .error _ => Named.name EventKind.error
  | .report _ => Named.name EventKind.report
  | .finished _ => Named.name EventKind.finished
  | .unknown name _ => name

def stepId? : Event → Option String
  | .toolStart p => some p.stepId
  | .toolComplete p => some p.stepId
  | .toolError p => some p.stepId
  | _ => none

def isUnknown : Event → Bool
  | .unknown _ _ => true
  | _ => false

/-- The producer sends nothing more for the current turn. -/
def isTerminal : Event → Bool
  | .finished _ => true
  | .error _ => true
  | .stateChange p => p.status == "done" || p.status == "error"
  | _ => false

/-! ### Payloads as data -/

def ofPayload (kind : EventKind) (v : Value) : Except Problem Event :=
  match kind with
  | .status => (StatusUpdate.codec.read v).map .status
  | .message => (Message.codec.read v).map .message
  | .planGenerated => (Plan.codec.read v).map .planGenerated
  | .toolStart => (ToolStart.codec.read v).map .toolStart
  | .toolComplete => (ToolCompletion.codec.read v).map .toolComplete
  | .toolError => (ToolFailure.codec.read v).map .toolError
  | .stateChange => (ActivityChange.codec.read v).map .stateChange
  | .error => (ErrorReport.codec.read v).map .error
  | .report => (Report.codec.read v).map .report
  | .finished => (Closing.codec.read v).map .finished

/-- The payload of an event; an unknown event has none. -/
def payload : Event → Value
  | .status p => StatusUpdate.codec.write p
  | .message p => Message.codec.write p
  | .planGenerated p => Plan.codec.write p
  | .toolStart p => ToolStart.codec.write p
  | .toolComplete p => ToolCompletion.codec.write p
  | .toolError p => ToolFailure.codec.write p
  | .stateChange p => ActivityChange.codec.write p
  | .error p => ErrorReport.codec.write p
  | .report p => Report.codec.write p
  | .finished p => Closing.codec.write p
  | .unknown _ _ => .null

end Event

end MeetingRoom
