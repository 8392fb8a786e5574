/-
  MeetingRoom/Step.lean
  =====================
  **Live steps: what became of a declared step.**

  A declared step is pending until a tool event refers to it.  Each part of
  its live state has one writer: a start sets the position, a completion the
  quality and whether there is data, a failure the error.
-/
import MeetingRoom.Plan

namespace MeetingRoom

open Json (Codec Value Fields)

/-! ### Status, quality, position -/

/-- How far a step has come. -/
inductive StepStatus where
  | pending
  | running
  | completed
  | error
deriving DecidableEq, Repr

namespace StepStatus

def names : List String := ["pending", "running", "completed", "error"]

def index : StepStatus → Fin names.length
  | .pending => ⟨0, by decide⟩
  | .running => ⟨1, by decide⟩
  | .completed => ⟨2, by decide⟩
  | .error => ⟨3, by decide⟩

def ofIndex (i : Fin names.length) : StepStatus :=
  if i.val = 0 then .pending
  else if i.val = 1 then .running
  else if i.val = 2 then .completed
  else .error

/-- Statuses as data: a closed choice of names. -/
def codec : Codec StepStatus where
  shape := .choice names
  ofData := ofIndex
  toData := index
  ofData_toData s := by cases s <;> rfl

end StepStatus

/-- The known classes of how fresh data is. -/
inductive Freshness where
  | realtime
  | endOfDay
  | delayed
  | missing
deriving DecidableEq, Repr

instance : Named Freshness where
  all := [.realtime, .endOfDay, .delayed, .missing]
  name
    | .realtime => "REALTIME"
    | .endOfDay => "EOD"
    | .delayed => "DELAYED"
    | .missing => "MISSING"
  mem_all x := by cases x <;> decide
  name_injective x y h := by cases x <;> cases y <;> first | rfl | exact absurd h (by decide)

/-- How fresh the data of a tool is. -/
abbrev DataQuality := Label Freshness

/-- The position of a running step within its plan. -/
structure StepPosition where
  step : UInt32
  total : UInt32
deriving DecidableEq

namespace StepPosition

def fields : Fields :=
  .cons "step" .required .word32 <|
  .cons "total" .required .word32 .nil

def codec : Codec StepPosition where
  shape := .record "StepProgress" fields
  ofData | (step, total, ()) => ⟨step, total⟩
  toData p := (p.step, p.total, ())
  ofData_toData _ := rfl

end StepPosition

/-! ### Live steps -/

/-- The live state of one step. -/
structure LiveStep where
  /-- The plan that declared the step most recently. -/
  planId : Int64
  spec : StepSpec
  status : StepStatus
  quality : Option DataQuality := none
  hasData : Option Bool := none
  error : Option String := none
  position : Option StepPosition := none

namespace LiveStep

/-- A step that was declared and has not started. -/
def pending (planId : Int64) (spec : StepSpec) : LiveStep where
  planId := planId
  spec := spec
  status := .pending

/-- Nothing more is expected of the step. -/
def isFinished (s : LiveStep) : Bool :=
  match s.status with
  | .completed | .error => true
  | .pending | .running => false

def fields : Fields :=
  .cons "plan_id" .required .int64 <|
  .cons "spec" .required StepSpec.codec.shape <|
  .cons "status" .required StepStatus.codec.shape <|
  .cons "quality" .optionalByName (.nullable .text) <|
  .cons "has_data" .optionalByName (.nullable .flag) <|
  .cons "error" .optionalByName (.nullable .text) <|
  .cons "progress" .optionalByName (.nullable StepPosition.codec.shape) .nil

def codec : Codec LiveStep where
  shape := .record "StepState" fields
  ofData
    | (planId, spec, status, quality, hasData, error, position, ()) =>
      { planId
        spec := StepSpec.codec.ofData spec
        status := StepStatus.codec.ofData status
        quality := quality.join.map Label.ofName
        hasData := hasData.join
        error := error.join
        position := position.join.map StepPosition.codec.ofData }
  toData s :=
    (s.planId, StepSpec.codec.toData s.spec, StepStatus.codec.toData s.status,
      some (s.quality.map Label.name), some s.hasData, some s.error,
      some (s.position.map StepPosition.codec.toData), ())
  ofData_toData s := by
    have hname : (Label.ofName ∘ Label.name : DataQuality → DataQuality) = id :=
      funext Label.ofName_name
    have hposition : StepPosition.codec.ofData ∘ StepPosition.codec.toData = id :=
      funext StepPosition.codec.ofData_toData
    simp [Codec.ofData_toData, hname, hposition]

end LiveStep

/-! ### Completion of a plan -/

/-- How many of a plan's declared steps are finished. -/
structure Completion where
  finished : Nat
  total : Nat
deriving DecidableEq, Repr

/-- Every declared step is finished. -/
def Completion.isComplete (c : Completion) : Bool := c.finished == c.total

end MeetingRoom
