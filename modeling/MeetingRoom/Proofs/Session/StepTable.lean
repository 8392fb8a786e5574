/-
  MeetingRoom/Proofs/Session/StepTable.lean
  =========================================
  **What an event does to the live steps.**

  The table of live steps is only ever read through `Session.step?`, so an
  event is described by what it makes of the live step under every id.  There
  are two parts to that: a plan *seeds* a pending step under each id it
  declares, and a tool event *rewrites* the live step under its own id.
  `step?_ingest` is the whole description; what comes later cites it and does
  not look into the table again.
-/
import MeetingRoom.Session.Transition

namespace MeetingRoom

/-! ### Declarations of a plan -/

namespace Plan

/-- The plan declares a step under the id. -/
def Declares (p : Plan) (stepId : String) : Prop := ∃ spec ∈ p.steps, spec.stepId = stepId

/-- The plan's last declaration of an id. -/
def declaration? (p : Plan) (stepId : String) : Option StepSpec :=
  (p.steps.filter fun spec => spec.stepId == stepId).getLast?

theorem isSome_declaration? {p : Plan} {stepId : String} :
    (p.declaration? stepId).isSome ↔ p.Declares stepId := by
  simp [declaration?, Declares]

theorem declaration?_eq_none {p : Plan} {stepId : String} :
    p.declaration? stepId = none ↔ ¬ p.Declares stepId := by
  rw [← isSome_declaration?, Option.not_isSome_iff_eq_none]

theorem stepId_of_declaration? {p : Plan} {stepId : String} {spec : StepSpec}
    (h : p.declaration? stepId = some spec) : spec ∈ p.steps ∧ spec.stepId = stepId := by
  have hmem : spec ∈ p.steps.filter fun spec => spec.stepId == stepId :=
    List.mem_of_getLast? h
  simpa using List.mem_filter.1 hmem

end Plan

/-! ### Seeding -/

namespace Session

theorem declareStep_fst (planId : Int64) (acc : Dictionary LiveStep × List Notice)
    (spec : StepSpec) :
    (declareStep planId acc spec).1 = acc.1.insert spec.stepId (.pending planId spec) := rfl

/-- After a list of declarations there is, under each id, the pending step of its
    last declaration; an id without a declaration keeps what it had. -/
theorem find?_foldl_declareStep (planId : Int64) (specs : List StepSpec)
    (acc : Dictionary LiveStep × List Notice) (stepId : String) :
    (specs.foldl (declareStep planId) acc).1.find? stepId =
      ((specs.filter fun spec => spec.stepId == stepId).getLast?.map
        (LiveStep.pending planId)).or (acc.1.find? stepId) := by
  induction specs generalizing acc with
  | nil => rfl
  | cons spec rest ih =>
    rw [List.foldl_cons, ih, declareStep_fst, Dictionary.find?_insert]
    by_cases h : spec.stepId = stepId
    · -- a later declaration of the same id still wins over this one
      rw [if_pos h, List.filter_cons_of_pos (by simpa using h), List.getLast?_cons]
      cases (rest.filter fun spec => spec.stepId == stepId).getLast? <;> rfl
    · rw [if_neg h, List.filter_cons_of_neg (by simpa using h)]

theorem find?_declareSteps (p : Plan) (steps : Dictionary LiveStep) (stepId : String) :
    (declareSteps p steps).1.find? stepId =
      ((p.declaration? stepId).map (LiveStep.pending p.id)).or (steps.find? stepId) :=
  find?_foldl_declareStep p.id p.steps (steps, []) stepId

end Session

/-! ### The two parts of an event -/

namespace Event

/-- The live step that an event puts under an id, whatever was there. -/
def seed? (e : Event) (stepId : String) : Option LiveStep :=
  match e with
  | .planGenerated p => (p.declaration? stepId).map (LiveStep.pending p.id)
  | _ => none

theorem seed?_eq_some {e : Event} {stepId : String} {x : LiveStep} :
    e.seed? stepId = some x ↔
      ∃ p, e = .planGenerated p ∧
        ∃ spec, p.declaration? stepId = some spec ∧ LiveStep.pending p.id spec = x := by
  cases e with
  | planGenerated p => simp [seed?]
  | status _ | message _ | toolStart _ | toolComplete _ | toolError _ | stateChange _ | error _
  | report _ | finished _ | unknown _ _ => simp [seed?]

theorem seed?_eq_none {e : Event} {stepId : String} :
    e.seed? stepId = none ↔ ∀ p, e = .planGenerated p → ¬ p.Declares stepId := by
  cases e with
  | planGenerated p => simp [seed?, Plan.declaration?_eq_none]
  | status _ | message _ | toolStart _ | toolComplete _ | toolError _ | stateChange _ | error _
  | report _ | finished _ | unknown _ _ => simp [seed?]

def onStep : Event → LiveStep → LiveStep
  | .toolStart p => Session.startStep p
  | .toolComplete p => Session.completeStep p
  | .toolError p => Session.failStep p
  | _ => id

/-- What an event makes of the live step under an id. -/
def rewrite (e : Event) (stepId : String) (x : LiveStep) : LiveStep :=
  if e.stepId? = some stepId then e.onStep x else x

theorem rewrite_of_stepId? {e : Event} {stepId : String} (h : e.stepId? = some stepId)
    (x : LiveStep) : e.rewrite stepId x = e.onStep x := if_pos h

theorem rewrite_of_ne {e : Event} {stepId : String} (h : e.stepId? ≠ some stepId)
    (x : LiveStep) : e.rewrite stepId x = x := if_neg h

end Event

namespace Session

theorem find?_update_rewrite {steps : Dictionary LiveStep} {e : Event} {own : String}
    (h : e.stepId? = some own) (stepId : String) :
    (steps.update own e.onStep).find? stepId =
      (steps.find? stepId).map (e.rewrite stepId) := by
  rw [Dictionary.find?_update]
  by_cases hid : own = stepId
  · subst hid
    have hrewrite : e.rewrite own = e.onStep := funext (Event.rewrite_of_stepId? h)
    rw [if_pos rfl, hrewrite]
  · have hrewrite : e.rewrite stepId = id :=
      funext (Event.rewrite_of_ne (by rw [h]; simpa using hid))
    rw [if_neg hid, hrewrite, Option.map_id, id]

/-- **What an event does to the live steps.**  It seeds the step under an id, or
    rewrites the one that is there. -/
theorem step?_ingest (s : Session) (e : Event) (stepId : String) :
    (s.ingest e).1.step? stepId =
      (e.seed? stepId).or ((s.step? stepId).map (e.rewrite stepId)) := by
  -- an event that refers to no step rewrites nothing
  have hsame : e.stepId? = none →
      (s.step? stepId).map (e.rewrite stepId) = s.step? stepId := by
    intro h
    have hrewrite : e.rewrite stepId = id :=
      funext (Event.rewrite_of_ne (by rw [h]; simp))
    rw [hrewrite, Option.map_id, id]
  cases e with
  | planGenerated p =>
    rw [hsame rfl]
    exact find?_declareSteps p s.steps stepId
  | toolStart p => exact find?_update_rewrite (e := .toolStart p) rfl stepId
  | toolComplete p => exact find?_update_rewrite (e := .toolComplete p) rfl stepId
  | toolError p => exact find?_update_rewrite (e := .toolError p) rfl stepId
  | stateChange p =>
    rw [hsame rfl]
    simp only [ingest, Event.seed?, Option.none_or]
    split <;> rfl
  | status _ | message _ | error _ | report _ | finished _ | unknown _ _ =>
    rw [hsame rfl]
    rfl

end Session

end MeetingRoom
