/-
  MeetingRoom/Plan.lean
  =====================
  **Research plans and the steps they declare.**

  A plan states an objective and declares steps, each a call of one tool.  It
  says why it was drawn up and, for a follow-up, who asked for it.  Nothing
  ensures that plan ids or step ids are distinct.
-/
import MeetingRoom.Label

namespace MeetingRoom

open Json (Codec Value Fields)

/-! ### Why a plan is drawn up -/

/-- The known reasons for a plan. -/
inductive Trigger where
  | initial
  | expertRequest
  | iteration
  | execution
deriving DecidableEq, Repr

instance : Named Trigger where
  all := [.initial, .expertRequest, .iteration, .execution]
  name
    | .initial => "initial"
    | .expertRequest => "expert_request"
    | .iteration => "iteration"
    | .execution => "execution"
  mem_all x := by cases x <;> decide
  name_injective x y h := by cases x <;> cases y <;> first | rfl | exact absurd h (by decide)

/-- Why a plan was drawn up. -/
abbrev PlanReason := Label Trigger

/-- A plan opens the discussion unless it says otherwise. -/
def PlanReason.standard : PlanReason := .known .initial

/-! ### Declared steps -/

/-- A step as a plan declares it. -/
structure StepSpec where
  stepId : String
  toolName : String
  arguments : Dictionary Value := .empty
  expectedOutput : String := ""
  validationRules : List String := []

namespace StepSpec

def fields : Fields :=
  .cons "step_id" .required .text <|
  .cons "tool_name" .required .text <|
  .cons "args_schema" .optional (.nullable .dictionary) <|
  .cons "expected_output" .optional (.nullable .text) <|
  .cons "validation_rules" .optional (.nullable (.listOf .text)) .nil

/-- Declared steps as data; what is left out or null is empty. -/
def codec : Codec StepSpec where
  shape := .record "PlanStep" fields
  ofData
    | (stepId, toolName, arguments, expectedOutput, validationRules, ()) =>
      { stepId, toolName
        arguments := arguments.join.getD .empty
        expectedOutput := expectedOutput.join.getD ""
        validationRules := validationRules.join.getD [] }
  toData s :=
    (s.stepId, s.toolName, some (some s.arguments), some (some s.expectedOutput),
      some (some s.validationRules), ())
  ofData_toData s := by simp

end StepSpec

/-! ### Plans -/

/-- A research plan. -/
structure Plan where
  id : Int64
  objective : String
  constraints : Dictionary Value := .empty
  steps : List StepSpec := []
  symbol : Option String := none
  reason : PlanReason := PlanReason.standard
  /-- The participant that asked for a follow-up. -/
  requester : Option String := none
  createdAt : Option String := none

namespace Plan

def fields : Fields :=
  .cons "plan_id" .required .int64 <|
  .cons "objective" .required .text <|
  .cons "constraints" .optional (.nullable .dictionary) <|
  .cons "steps" .optional (.nullable (.listOf StepSpec.codec.shape)) <|
  .cons "symbol_key" .optional (.nullable .text) <|
  .cons "trigger_reason" .optional (.nullable .text) <|
  .cons "requester" .optional (.nullable .text) <|
  .cons "created_at" .optional (.nullable .text) .nil

/-- Plans as data.  Without a reason a plan is an initial one; a plan without
    a time of creation is written without the field. -/
def codec : Codec Plan where
  shape := .record "ResearchPlan" fields
  ofData
    | (id, objective, constraints, steps, symbol, reason, requester, createdAt, ()) =>
      { id, objective
        constraints := constraints.join.getD .empty
        steps := (steps.join.getD []).map StepSpec.codec.ofData
        symbol := symbol.join
        reason := (reason.join.map Label.ofName).getD PlanReason.standard
        requester := requester.join
        createdAt := createdAt.join }
  toData p :=
    (p.id, p.objective, some (some p.constraints), some (some (p.steps.map StepSpec.codec.toData)),
      some p.symbol, some (some p.reason.name), some p.requester, p.createdAt.map some, ())
  ofData_toData p := by
    have hsteps : (p.steps.map StepSpec.codec.toData).map StepSpec.codec.ofData = p.steps := by
      rw [List.map_map]
      exact (List.map_congr_left fun s _ => StepSpec.codec.ofData_toData s).trans (List.map_id' _)
    obtain ⟨_, _, _, steps, _, _, _, createdAt⟩ := p
    cases createdAt <;> simp_all [Label.ofName_name]

end Plan

end MeetingRoom
