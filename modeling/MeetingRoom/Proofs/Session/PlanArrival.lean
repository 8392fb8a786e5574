/-
  MeetingRoom/Proofs/Session/PlanArrival.lean
  ===========================================
  **What the session shows of a plan that has just arrived.**

  A plan is looked up by its id, and the first plan under an id is found; the
  current id, though, is that of the plan that arrived last.  The two agree as
  long as no earlier plan carries the same id.  Nothing ensures that: a second
  meeting in one session may number its plans from the start again.

  `plan_shown_iff` says exactly what is shown.  The current plan is the new one
  unless an earlier plan under its id differs from it, and the steps shown are
  the new plan's pending ones unless that earlier plan declares other ids.
-/
import Mathlib.Data.List.Basic
import MeetingRoom.Proofs.Session.Coherence
import MeetingRoom.Watch.Screen

namespace MeetingRoom

open Watch (Line eventLines)

/-- The steps of a plan before any tool event: for each declaration, in order,
    the pending step of the last declaration of the same id. -/
def Plan.pendingSteps (p : Plan) : List LiveStep :=
  p.steps.map fun spec => .pending p.id ((p.declaration? spec.stepId).getD spec)

theorem Plan.stepIds_pendingSteps (p : Plan) :
    p.pendingSteps.map (fun x => x.spec.stepId) = p.steps.map StepSpec.stepId := by
  rw [pendingSteps, List.map_map]
  refine List.map_congr_left fun spec _ => ?_
  show ((p.declaration? spec.stepId).getD spec).stepId = spec.stepId
  cases h : p.declaration? spec.stepId with
  | none => rfl
  | some found => exact (Plan.stepId_of_declaration? h).2

namespace Session

abbrev withPlan (s : Session) (p : Plan) : Session := (s.ingest (.planGenerated p)).1

theorem plan?_withPlan (s : Session) (p : Plan) (id : Int64) :
    (s.withPlan p).plan? id = (s.plan? id).or (if p.id = id then some p else none) := by
  have hplans : (s.withPlan p).plans = s.plans ++ [p] := plans_ingest s (.planGenerated p)
  rw [plan?, hplans, List.find?_append]
  by_cases h : p.id = id <;> simp [plan?, h]

theorem currentPlan?_withPlan (s : Session) (p : Plan) :
    (s.withPlan p).currentPlan? = some ((s.plan? p.id).getD p) := by
  have hid : (s.withPlan p).currentPlanId = some p.id := currentPlanId_ingest s (.planGenerated p)
  rw [currentPlan?, hid, Option.bind_some, plan?_withPlan, if_pos rfl]
  cases s.plan? p.id <;> rfl

theorem filterMap_step?_withPlan (s : Session) (p : Plan) :
    (p.steps.filterMap fun spec => (s.withPlan p).step? spec.stepId) = p.pendingSteps := by
  rw [Plan.pendingSteps, List.filterMap_eq_map_iff_forall_eq_some]
  intro spec hspec
  obtain ⟨found, hfound⟩ : ∃ found, p.declaration? spec.stepId = some found :=
    Option.isSome_iff_exists.1 (Plan.isSome_declaration?.2 ⟨spec, hspec, rfl⟩)
  rw [step?_ingest, Event.seed?, hfound]
  rfl

/-- The steps shown for the new plan's id are its pending ones exactly if the
    plan found under the id declares the same ids in the same order. -/
theorem stepsOf_withPlan_eq_iff {s : Session} (h : Coherent s) (p : Plan) :
    (s.withPlan p).stepsOf p.id = p.pendingSteps ↔
      ((s.plan? p.id).getD p).steps.map StepSpec.stepId = p.steps.map StepSpec.stepId := by
  have hfound : (s.withPlan p).plan? p.id = some ((s.plan? p.id).getD p) := by
    rw [plan?_withPlan, if_pos rfl]
    cases s.plan? p.id <;> rfl
  constructor
  · intro heq
    rw [← (h.ingest (.planGenerated p)).stepIds_stepsOf hfound, heq, Plan.stepIds_pendingSteps]
  · intro hids
    -- the same ids are looked up in the same table
    have hmap : ∀ specs : List StepSpec,
        (specs.filterMap fun spec => (s.withPlan p).step? spec.stepId) =
          (specs.map StepSpec.stepId).filterMap (s.withPlan p).step? := by
      intro specs
      rw [List.filterMap_map]
      rfl
    rw [stepsOf_of_plan? hfound, hmap, hids, ← hmap, filterMap_step?_withPlan]

end Session

def planLines (p : Plan) (steps : List LiveStep) : List Line :=
  .plan p.id p.objective :: (p.requester.map Line.requester).toList ++ steps.map Line.step

theorem planLines_inj {p : Plan} {xs ys : List LiveStep} :
    planLines p xs = planLines p ys ↔ xs = ys := by
  have hstep : Function.Injective Line.step := fun x y h => by cases h; rfl
  simp [planLines, hstep.list_map.eq_iff]

/-- **A plan arrives.**  It is the last of the plans and its id is the current
    one.  The current plan is the new one if and only if no other plan is found
    under its id; the steps of its id are its pending ones, and are printed below
    it, if and only if no plan with other step ids is found under its id. -/
theorem plan_shown_iff (symbol : String) (as : List Action) (p : Plan) :
    let s := (Session.forSymbol symbol).run as
    (s.withPlan p).plans.getLast? = some p ∧
      (s.withPlan p).currentPlanId = some p.id ∧
      ((s.withPlan p).currentPlan? = some p ↔ ∀ q, s.plan? p.id = some q → q = p) ∧
      ((s.withPlan p).stepsOf p.id = p.pendingSteps ↔
        ∀ q, s.plan? p.id = some q →
          q.steps.map StepSpec.stepId = p.steps.map StepSpec.stepId) ∧
      (eventLines (.planGenerated p) (s.withPlan p) = planLines p p.pendingSteps ↔
        ∀ q, s.plan? p.id = some q →
          q.steps.map StepSpec.stepId = p.steps.map StepSpec.stepId) := by
  intro s
  have hsteps : (s.withPlan p).stepsOf p.id = p.pendingSteps ↔
      ∀ q, s.plan? p.id = some q →
        q.steps.map StepSpec.stepId = p.steps.map StepSpec.stepId := by
    rw [Session.stepsOf_withPlan_eq_iff (Coherent.run symbol as)]
    cases s.plan? p.id <;> simp
  refine ⟨?_, Session.currentPlanId_ingest s (.planGenerated p), ?_, hsteps, ?_⟩
  · rw [Session.plans_ingest]
    exact List.getLast?_concat
  · rw [Session.currentPlan?_withPlan]
    cases s.plan? p.id <;> simp
  · exact planLines_inj.trans hsteps

/-- A plan under an id that was used before is not the current plan, and its
    steps are not those shown for its id. -/
theorem reusedId_hides_plan :
    ¬ ∀ (symbol : String) (as : List Action) (p : Plan),
      let s := (Session.forSymbol symbol).run as
      (s.withPlan p).currentPlan? = some p ∧ (s.withPlan p).stepsOf p.id = p.pendingSteps := by
  intro h
  let bars : StepSpec := { stepId := "a", toolName := "bars" }
  let news : StepSpec := { stepId := "b", toolName := "news" }
  let older : Plan := { id := 1, objective := "old", steps := [bars] }
  let newer : Plan := { id := 1, objective := "new", steps := [news] }
  have hcurrent := (h "US:AAPL" [.ingest (.planGenerated older)] newer).1
  have hobjective := congrArg (Option.map Plan.objective) hcurrent
  exact absurd hobjective (by decide)

end MeetingRoom
