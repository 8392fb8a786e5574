/-
  MeetingRoom/Proofs/Session/Progress.lean
  ========================================
  **How far a plan has come.**

  The progress of a plan is counted over its live steps, and these are looked
  up one by one in a table that all plans share.  A step that were not found
  there would be left out of the count, and the plan would never be complete.
  In a coherent session nothing is left out: the live steps of a plan are as
  many as it declares (`Coherent.stepsOf_eq_map`), so a plan is complete exactly
  if each of its declared steps is finished (`Coherent.isComplete_iff`).

  A live step belongs to the last plan that declares its id, which need not be
  the plan that is asked for (`lastPlan_of_step?`).
-/
import MeetingRoom.Proofs.Session.Coherence
import MeetingRoom.Proofs.Session.LiveStep

namespace MeetingRoom

/-! ### Plans under an id -/

namespace Session

theorem plan?_eq_some_of_first {s : Session} {earlier later : List Plan} {p : Plan}
    (hplans : s.plans = earlier ++ p :: later) (hfirst : ∀ q ∈ earlier, q.id ≠ p.id) :
    s.plan? p.id = some p := by
  have hearlier : earlier.find? (fun q => q.id == p.id) = none := by
    rw [List.find?_eq_none]
    intro q hq
    simpa using hfirst q hq
  rw [plan?, hplans, List.find?_append, hearlier, Option.none_or]
  exact List.find?_cons_of_pos (beq_self_eq_true p.id)

theorem plan?_eq_none_of_unrecorded {s : Session} {id : Int64}
    (h : ∀ q ∈ s.plans, q.id ≠ id) : s.plan? id = none := by
  rw [plan?, List.find?_eq_none]
  intro q hq
  simpa using h q hq

end Session

/-! ### The owner of a live step -/

/-- A live step belongs to the last plan, in order of arrival, that declares its
    id, and is that plan's last declaration of it. -/
theorem lastPlan_of_step? {symbol : String} {as : List Action} {stepId : String} {x : LiveStep}
    (h : ((Session.forSymbol symbol).run as).step? stepId = some x) :
    ∃ earlier p later,
      ((Session.forSymbol symbol).run as).plans = earlier ++ p :: later ∧
        (∀ q ∈ later, ¬ q.Declares stepId) ∧
        p.declaration? stepId = some x.spec ∧ x.planId = p.id := by
  obtain ⟨p, spec, after, hl, rfl⟩ := (tracks_run stepId symbol as x).1 h
  obtain ⟨before, hes⟩ := hl.arrival
  refine ⟨before.filterMap Event.plan?, p, after.filterMap Event.plan?, ?_, ?_, hl.declaration, rfl⟩
  · rw [Session.plans_run, hes, List.filterMap_append]
    rfl
  · intro q hq
    obtain ⟨e, he, hplan⟩ := List.mem_filterMap.1 hq
    rw [Event.plan?_eq_some.1 hplan] at he
    exact hl.last q he

/-! ### Counting the finished steps -/

theorem LiveStep.isFinished_iff {x : LiveStep} :
    x.isFinished = true ↔ x.status = .completed ∨ x.status = .error := by
  unfold LiveStep.isFinished
  cases x.status <;> simp

namespace Coherent

theorem stepsOf_eq_map {s : Session} (h : Coherent s) {id : Int64} {p : Plan}
    (hp : s.plan? id = some p) :
    s.stepsOf id = p.steps.map fun spec => (s.step? spec.stepId).getD (.pending id spec) := by
  have hmem : p ∈ s.plans := List.mem_of_find?_eq_some hp
  -- each declaration finds its live step, so none is filtered out
  rw [Session.stepsOf_of_plan? hp, List.filterMap_eq_map_iff_forall_eq_some]
  intro spec hspec
  obtain ⟨x, hx⟩ := Option.isSome_iff_exists.1 (h.live p hmem spec hspec)
  rw [hx, Option.getD_some]

theorem length_stepsOf {s : Session} (h : Coherent s) {id : Int64} {p : Plan}
    (hp : s.plan? id = some p) : (s.stepsOf id).length = p.steps.length := by
  rw [h.stepsOf_eq_map hp, List.length_map]

theorem stepId_getElem?_stepsOf {s : Session} (h : Coherent s) {id : Int64} {p : Plan}
    (hp : s.plan? id = some p) (i : Nat) :
    ((s.stepsOf id)[i]?).map (fun x => x.spec.stepId) = (p.steps[i]?).map StepSpec.stepId := by
  rw [← List.getElem?_map, ← List.getElem?_map, h.stepIds_stepsOf hp]

/-- A plan is complete exactly if each declared step is live and finished. -/
theorem isComplete_iff {s : Session} (h : Coherent s) {id : Int64} {p : Plan}
    (hp : s.plan? id = some p) :
    ((s.stepsOf id).filter LiveStep.isFinished).length = p.steps.length ↔
      ∀ spec ∈ p.steps,
        ∃ x, s.step? spec.stepId = some x ∧ (x.status = .completed ∨ x.status = .error) := by
  have hmem : p ∈ s.plans := List.mem_of_find?_eq_some hp
  rw [← h.length_stepsOf hp, List.length_filter_eq_length_iff, h.stepsOf_eq_map hp,
    List.forall_mem_map]
  refine forall₂_congr fun spec hspec => ?_
  obtain ⟨x, hx⟩ := Option.isSome_iff_exists.1 (h.live p hmem spec hspec)
  rw [hx, Option.getD_some, LiveStep.isFinished_iff]
  simp

end Coherent

/-! ### Plans, live steps and progress -/

/-- **Plans and live steps agree.**  In every session that can be reached, each
    declared step is live; a live step is found under its own id and belongs to
    the last plan that declares it; and the current id is that of the last plan.
    So the live steps of the first plan under an id are those it declares, one
    for each and in order, and it is complete if and only if all of them are
    finished; under an id of no plan there are no steps and no progress. -/
theorem plans_agree_with_steps (symbol : String) (as : List Action) :
    let s := (Session.forSymbol symbol).run as
    (∀ p ∈ s.plans, ∀ spec ∈ p.steps, (s.step? spec.stepId).isSome) ∧
      (∀ stepId x, s.step? stepId = some x →
        x.spec.stepId = stepId ∧
          ∃ earlier p later, s.plans = earlier ++ p :: later ∧
            (∀ q ∈ later, ¬ q.Declares stepId) ∧
            p.declaration? stepId = some x.spec ∧ x.planId = p.id) ∧
      s.currentPlanId = s.plans.getLast?.map Plan.id ∧
      (s.currentPlanId = none ↔ s.plans = []) ∧
      (∀ earlier p later, s.plans = earlier ++ p :: later → (∀ q ∈ earlier, q.id ≠ p.id) →
        (s.stepsOf p.id).length = p.steps.length ∧
          (∀ i : Nat, ((s.stepsOf p.id)[i]?).map (fun x => x.spec.stepId) =
            (p.steps[i]?).map StepSpec.stepId) ∧
          ∃ c, s.completion? p.id = some c ∧
            c.total = p.steps.length ∧ c.finished ≤ c.total ∧
            (c.isComplete = true ↔
              ∀ spec ∈ p.steps, ∃ x, s.step? spec.stepId = some x ∧
                (x.status = .completed ∨ x.status = .error))) ∧
      (∀ id, (∀ q ∈ s.plans, q.id ≠ id) → s.stepsOf id = [] ∧ s.completion? id = none) := by
  intro s
  have h : Coherent s := Coherent.run symbol as
  refine ⟨h.live, ?_, h.current, ?_, ?_, ?_⟩
  · intro stepId x hx
    exact ⟨h.keyed stepId x hx, lastPlan_of_step? hx⟩
  · rw [h.current, Option.map_eq_none_iff, List.getLast?_eq_none_iff]
  · intro earlier p later hplans hfirst
    have hp : s.plan? p.id = some p := Session.plan?_eq_some_of_first hplans hfirst
    refine ⟨h.length_stepsOf hp, h.stepId_getElem?_stepsOf hp, ?_⟩
    refine ⟨⟨((s.stepsOf p.id).filter LiveStep.isFinished).length, p.steps.length⟩, ?_, rfl, ?_, ?_⟩
    · rw [Session.completion?, hp, Option.map_some]
    · show ((s.stepsOf p.id).filter LiveStep.isFinished).length ≤ p.steps.length
      rw [← h.length_stepsOf hp]
      exact List.length_filter_le _ _
    · rw [Completion.isComplete, beq_iff_eq]
      exact h.isComplete_iff hp
  · intro id hid
    have hp : s.plan? id = none := Session.plan?_eq_none_of_unrecorded hid
    constructor
    · simp only [Session.stepsOf, hp]
    · rw [Session.completion?, hp, Option.map_none]

end MeetingRoom
