/-
  MeetingRoom/Event/Payload.lean
  ==============================
  **What the events of a meeting carry.**

  Messages, plans and reports are types of their own; the other payloads are
  here.
-/
import MeetingRoom.Step

namespace MeetingRoom

open Json (Codec Fields)

/-! ### Progress notes -/

/-- A change of the progress line. -/
structure StatusUpdate where
  message : Option String := none
deriving DecidableEq

namespace StatusUpdate

def fields : Fields := .cons "message" .optional (.nullable .text) .nil

def codec : Codec StatusUpdate where
  shape := .record "StatusPayload" fields
  ofData | (message, ()) => ⟨message.join⟩
  toData p := (some p.message, ())
  ofData_toData _ := rfl

end StatusUpdate

/-- A change of the meeting's activity. -/
structure ActivityChange where
  status : String
deriving DecidableEq

namespace ActivityChange

def fields : Fields := .cons "status" .required .text .nil

def codec : Codec ActivityChange where
  shape := .record "StateChangePayload" fields
  ofData | (status, ()) => ⟨status⟩
  toData p := (p.status, ())
  ofData_toData _ := rfl

end ActivityChange

/-- A failure of the meeting. -/
structure ErrorReport where
  message : String := ""
deriving DecidableEq

namespace ErrorReport

def fields : Fields := .cons "message" .optional (.nullable .text) .nil

def codec : Codec ErrorReport where
  shape := .record "ErrorPayload" fields
  ofData | (message, ()) => ⟨message.join.getD ""⟩
  toData p := (some (some p.message), ())
  ofData_toData _ := rfl

end ErrorReport

/-- The end of the meeting. -/
structure Closing where
  message : Option String := none
deriving DecidableEq

namespace Closing

def fields : Fields := .cons "message" .optional (.nullable .text) .nil

def codec : Codec Closing where
  shape := .record "FinishedPayload" fields
  ofData | (message, ()) => ⟨message.join⟩
  toData p := (some p.message, ())
  ofData_toData _ := rfl

end Closing

/-! ### Tool events -/

/-- A step starts. -/
structure ToolStart where
  stepId : String
  step : Option UInt32 := none
  total : Option UInt32 := none
  toolName : Option String := none
deriving DecidableEq

namespace ToolStart

/-- The position of the step, if both of its parts are given. -/
def position (p : ToolStart) : Option StepPosition :=
  match p.step, p.total with
  | some step, some total => some ⟨step, total⟩
  | _, _ => none

def fields : Fields :=
  .cons "step_id" .required .text <|
  .cons "step" .optional (.nullable .word32) <|
  .cons "total" .optional (.nullable .word32) <|
  .cons "tool_name" .optional (.nullable .text) .nil

def codec : Codec ToolStart where
  shape := .record "ToolStartPayload" fields
  ofData | (stepId, step, total, toolName, ()) => ⟨stepId, step.join, total.join, toolName.join⟩
  toData p := (p.stepId, some p.step, some p.total, some p.toolName, ())
  ofData_toData _ := rfl

end ToolStart

/-- A step completes. -/
structure ToolCompletion where
  stepId : String
  quality : Option DataQuality := none
  hasData : Option Bool := none
deriving DecidableEq

namespace ToolCompletion

def fields : Fields :=
  .cons "step_id" .required .text <|
  .cons "quality" .optional (.nullable .text) <|
  .cons "has_data" .optional (.nullable .flag) .nil

def codec : Codec ToolCompletion where
  shape := .record "ToolCompletePayload" fields
  ofData
    | (stepId, quality, hasData, ()) => ⟨stepId, quality.join.map Label.ofName, hasData.join⟩
  toData p := (p.stepId, some (p.quality.map Label.name), some p.hasData, ())
  ofData_toData p := by
    have hname : (Label.ofName ∘ Label.name : DataQuality → DataQuality) = id :=
      funext Label.ofName_name
    simp [hname]

end ToolCompletion

/-- A step fails. -/
structure ToolFailure where
  stepId : String
  error : Option String := none
deriving DecidableEq

namespace ToolFailure

def fields : Fields :=
  .cons "step_id" .required .text <|
  .cons "error" .optional (.nullable .text) .nil

def codec : Codec ToolFailure where
  shape := .record "ToolErrorPayload" fields
  ofData | (stepId, error, ()) => ⟨stepId, error.join⟩
  toData p := (p.stepId, some p.error, ())
  ofData_toData _ := rfl

end ToolFailure

end MeetingRoom
