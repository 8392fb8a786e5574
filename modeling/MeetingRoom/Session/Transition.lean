/-
  MeetingRoom/Session/Transition.lean
  ===================================
  **How actions change a session.**

  `Session.apply` is the whole of it: the next session, the requests that the
  action asks for, and what is noted.  An event about something the session
  does not know (an unknown type, a tool event for a step that no plan
  declared) changes nothing; `Session.dropped?` tells beforehand.
-/
import MeetingRoom.Session.Action
import MeetingRoom.Text.Trim

namespace MeetingRoom

open Text (trimBlank)

/-- What an action leads to. -/
structure Outcome where
  session : Session
  effects : List Effect := []
  notices : List Notice := []

namespace Session

def errorStatus (error : String) : String := "Error: " ++ error

/-! ### Plans -/

/-- Declares one step of a plan.  If another plan owns the step's id, its live
    state is lost, and that is noted. -/
def declareStep (planId : Int64) (acc : Dictionary LiveStep × List Notice) (spec : StepSpec) :
    Dictionary LiveStep × List Notice :=
  let (steps, notices) := acc
  let noted := match steps.find? spec.stepId with
    | some previous =>
      if previous.planId = planId then notices
      else notices ++ [.stepRedeclared spec.stepId previous.planId planId]
    | none => notices
  (steps.insert spec.stepId (.pending planId spec), noted)

/-- Declares the steps of a plan one after the other. -/
def declareSteps (plan : Plan) (steps : Dictionary LiveStep) : Dictionary LiveStep × List Notice :=
  plan.steps.foldl (declareStep plan.id) (steps, [])

/-! ### Tool events -/

/-- A start: the position is kept if the event gives none. -/
def startStep (p : ToolStart) (step : LiveStep) : LiveStep :=
  { step with status := .running, position := p.position.or step.position }

/-- A completion: what it says of the data replaces what was said before. -/
def completeStep (p : ToolCompletion) (step : LiveStep) : LiveStep :=
  { step with status := .completed, quality := p.quality, hasData := p.hasData }

def failStep (p : ToolFailure) (step : LiveStep) : LiveStep :=
  { step with status := .error, error := p.error }

/-! ### Events -/

/-- The session after an event, and what is noted. -/
def ingest (s : Session) : Event → Session × List Notice
  | .status p => ({ s with statusLine := p.message.getD "" }, [])
  | .message m => ({ s with transcript := s.transcript ++ [m] }, [])
  | .planGenerated plan =>
    let (steps, notices) := declareSteps plan s.steps
    ({ s with steps, currentPlanId := some plan.id, plans := s.plans ++ [plan] }, notices)
  | .toolStart p => ({ s with steps := s.steps.update p.stepId (startStep p) }, [])
  | .toolComplete p => ({ s with steps := s.steps.update p.stepId (completeStep p) }, [])
  | .toolError p => ({ s with steps := s.steps.update p.stepId (failStep p) }, [])
  | .stateChange p =>
    (if p.status = "done" ∨ p.status = "error" then { s with busy := false } else s, [])
  | .error p => ({ s with statusLine := errorStatus p.message, busy := false }, [])
  | .report r => ({ s with report := some r }, [])
  | .finished p => ({ s with statusLine := p.message.getD "Meeting finished", busy := false }, [])
  | .unknown _ _ => (s, [])

/-- The event will be ignored. -/
def dropped? (s : Session) (e : Event) : Option DroppedEvent :=
  match e, e.stepId? with
  | .unknown name _, _ => some ⟨name, none⟩
  | e, some stepId =>
    if s.steps.contains stepId then none else some ⟨e.typeName, some stepId⟩
  | _, none => none

/-! ### Actions -/

/-- A question is accepted: something is left of it without the blanks around
    it, and a symbol was picked. -/
def accepts (s : Session) (query : String) : Bool :=
  !(trimBlank query).isEmpty && s.hasSymbol

def apply (s : Session) : Action → Outcome
  | .setSymbol symbol => { session := forSymbol symbol }
  | .clearHistory => { session := { s with transcript := [] } }
  | .requestClearHistory =>
    { session := { s with transcript := [] }
      effects := if s.hasSymbol then [.clearRemoteHistory s.symbol] else [] }
  | .addMessage m => { session := { s with transcript := s.transcript ++ [m] } }
  | .setBusy busy => { session := { s with busy } }
  | .setStatus text => { session := { s with statusLine := text } }
  | .submitQuery query author timestamp =>
    if s.accepts query then
      let content := trimBlank query
      let m := Message.fromUser author content timestamp s.currentRound
      { session := { s with transcript := s.transcript ++ [m], busy := true }
        effects := [.startSession s.symbol content] }
    else { session := s }
  | .submissionFailed error =>
    { session := { s with busy := false, statusLine := errorStatus error } }
  | .ingest e =>
    let (session, notices) := s.ingest e
    { session, notices }

end Session

end MeetingRoom
