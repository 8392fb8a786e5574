/-
  MeetingRoom/Session/State.lean
  ==============================
  **What is known of a meeting at one moment.**

  A session is about one symbol.  It holds the transcript and the plans in the
  order they arrived, and for every declared step id one live step, whichever
  plan declared it last.
-/
import MeetingRoom.Event

namespace MeetingRoom

/-- The state of one session. -/
structure Session where
  /-- Empty until a symbol is picked. -/
  symbol : String := ""
  transcript : List Message := []
  /-- A turn of the meeting is under way. -/
  busy : Bool := false
  statusLine : String := ""
  plans : List Plan := []
  currentPlanId : Option Int64 := none
  steps : Dictionary LiveStep := .empty
  report : Option Report := none

namespace Session

/-- A fresh session about a symbol. -/
def forSymbol (symbol : String) : Session := { symbol }

def hasSymbol (s : Session) : Bool := !s.symbol.isEmpty

/-- The first plan that arrived under an id. -/
def plan? (s : Session) (id : Int64) : Option Plan := s.plans.find? (·.id == id)

/-- The plan under the id of the plan that arrived last. -/
def currentPlan? (s : Session) : Option Plan := s.currentPlanId.bind s.plan?

def step? (s : Session) (stepId : String) : Option LiveStep := s.steps.find? stepId

/-- The live steps of a plan in the order the plan declares them.  A step that
    a later plan declared again shows that plan's state. -/
def stepsOf (s : Session) (id : Int64) : List LiveStep :=
  match s.plan? id with
  | some plan => plan.steps.filterMap fun spec => s.step? spec.stepId
  | none => []

/-- How many of a plan's steps are finished. -/
def completion? (s : Session) (id : Int64) : Option Completion :=
  (s.plan? id).map fun plan =>
    { finished := ((s.stepsOf id).filter LiveStep.isFinished).length, total := plan.steps.length }

/-- The round that the next message of the local user belongs to: that of the
    last message, or the first. -/
def currentRound (s : Session) : UInt32 :=
  match s.transcript.getLast? with
  | some m => m.round
  | none => 1

end Session

end MeetingRoom
