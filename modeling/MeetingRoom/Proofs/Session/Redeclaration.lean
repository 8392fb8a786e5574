/-
  MeetingRoom/Proofs/Session/Redeclaration.lean
  =============================================
  **What is noted when a plan declares ids that are taken.**

  The steps of a plan are declared one after the other, in the table that is
  looked into for the steps of other plans.  After the first declaration of an
  id the table holds a step of the new plan under it, so a repetition within the
  plan is not noted; at the first declaration the table holds what it held
  before the event (`redeclaration?_foldl_declareStep`).  So the notices can be
  told from the table before the event and the distinct ids of the plan.
-/
import Mathlib.Data.List.Basic
import Mathlib.Data.List.Induction
import MeetingRoom.Proofs.Session.StepTable

namespace MeetingRoom

/-! ### First occurrences -/

section FirstOccurrences

variable {α : Type} [BEq α] [LawfulBEq α]

theorem eraseDups_concat_of_mem {xs : List α} {x : α} (h : x ∈ xs) :
    (xs ++ [x]).eraseDups = xs.eraseDups := by
  have hnone : [x].removeAll xs = [] := by simp [List.removeAll, h]
  rw [List.eraseDups_append, hnone, List.eraseDups_nil, List.append_nil]

theorem eraseDups_concat_of_not_mem {xs : List α} {x : α} (h : x ∉ xs) :
    (xs ++ [x]).eraseDups = xs.eraseDups ++ [x] := by
  have hone : [x].removeAll xs = [x] := by simp [List.removeAll, h]
  rw [List.eraseDups_append, hone]
  rfl

/-- Without repetitions, elements stand in the order of their first occurrences. -/
theorem pairwise_idxOf_eraseDups (xs : List α) :
    xs.eraseDups.Pairwise fun x y => xs.idxOf x < xs.idxOf y := by
  induction xs using List.reverseRecOn with
  | nil => exact List.Pairwise.nil
  | append_singleton xs x ih =>
    -- one more element moves no first occurrence
    have hkept : ∀ y ∈ xs.eraseDups, (xs ++ [x]).idxOf y = xs.idxOf y := by
      intro y hy
      exact List.idxOf_append_of_mem (List.mem_eraseDups.1 hy)
    have hearlier : xs.eraseDups.Pairwise fun y z =>
        (xs ++ [x]).idxOf y < (xs ++ [x]).idxOf z := by
      refine ih.imp_of_mem ?_
      intro y z hy hz hlt
      rw [hkept y hy, hkept z hz]
      exact hlt
    by_cases h : x ∈ xs
    · rw [eraseDups_concat_of_mem h]
      exact hearlier
    · rw [eraseDups_concat_of_not_mem h, List.pairwise_append]
      refine ⟨hearlier, List.pairwise_singleton _ _, ?_⟩
      intro y hy z hz
      obtain rfl := List.mem_singleton.1 hz
      have hlast : (xs ++ [z]).idxOf z = xs.length := by
        simp [List.idxOf_append, h]
      rw [hkept y hy, hlast]
      exact List.idxOf_lt_length_iff.2 (List.mem_eraseDups.1 hy)

end FirstOccurrences

/-! ### Declared ids -/

namespace Plan

/-- The ids that the plan declares, each once, in the order of their first
    declarations. -/
def declaredIds (p : Plan) : List String := (p.steps.map StepSpec.stepId).eraseDups

/-- The place of an id's first declaration. -/
def firstPlace (p : Plan) (stepId : String) : Nat := (p.steps.map StepSpec.stepId).idxOf stepId

theorem mem_declaredIds {p : Plan} {stepId : String} :
    stepId ∈ p.declaredIds ↔ p.Declares stepId := by
  simp [declaredIds, Declares]

end Plan

/-! ### Notices -/

namespace Session

/-- What is noted of an id that a plan declares, given the live steps so far: the
    other plan, if there is one, whose live step is lost. -/
def redeclaration? (steps : Dictionary LiveStep) (planId : Int64) (stepId : String) :
    Option Notice :=
  match steps.find? stepId with
  | some previous =>
    if previous.planId = planId then none
    else some (.stepRedeclared stepId previous.planId planId)
  | none => none

theorem redeclaration?_eq_some_iff {steps : Dictionary LiveStep} {planId : Int64}
    {stepId : String} {n : Notice} :
    redeclaration? steps planId stepId = some n ↔
      ∃ previous, steps.find? stepId = some previous ∧ previous.planId ≠ planId ∧
        n = .stepRedeclared stepId previous.planId planId := by
  rw [redeclaration?]
  cases steps.find? stepId with
  | none => simp
  | some previous => simp [eq_comm]

theorem declareStep_snd (planId : Int64) (acc : Dictionary LiveStep × List Notice)
    (spec : StepSpec) :
    (declareStep planId acc spec).2 =
      acc.2 ++ (redeclaration? acc.1 planId spec.stepId).toList := by
  rw [declareStep, redeclaration?]
  cases acc.1.find? spec.stepId with
  | none => simp
  | some previous =>
    simp only
    split <;> simp

/-- After some declarations of a plan, its declared ids are noted no more, and the
    others as before. -/
theorem redeclaration?_foldl_declareStep (planId : Int64) (specs : List StepSpec)
    (acc : Dictionary LiveStep × List Notice) (stepId : String) :
    redeclaration? (specs.foldl (declareStep planId) acc).1 planId stepId =
      if stepId ∈ specs.map StepSpec.stepId then none
      else redeclaration? acc.1 planId stepId := by
  rw [redeclaration?, find?_foldl_declareStep]
  by_cases h : stepId ∈ specs.map StepSpec.stepId
  · -- the plan's own step is live under the id
    obtain ⟨spec, hspec⟩ : ∃ spec,
        (specs.filter fun spec => spec.stepId == stepId).getLast? = some spec := by
      rw [← Option.isSome_iff_exists]
      simpa using h
    rw [if_pos h, hspec]
    simp [LiveStep.pending]
  · have hnone : (specs.filter fun spec => spec.stepId == stepId) = [] := by
      rw [List.filter_eq_nil_iff]
      intro spec hspec hid
      exact h (List.mem_map.2 ⟨spec, hspec, by simpa using hid⟩)
    rw [if_neg h, hnone]
    rfl

/-- Declarations note the ids that were live under another plan before them, each
    at its first declaration. -/
theorem foldl_declareStep_snd (planId : Int64) (specs : List StepSpec)
    (steps : Dictionary LiveStep) :
    (specs.foldl (declareStep planId) (steps, [])).2 =
      (specs.map StepSpec.stepId).eraseDups.filterMap (redeclaration? steps planId) := by
  induction specs using List.reverseRecOn with
  | nil => rfl
  | append_singleton specs spec ih =>
    rw [List.foldl_append, List.foldl_cons, List.foldl_nil, declareStep_snd, ih,
      redeclaration?_foldl_declareStep, List.map_append, List.map_singleton]
    by_cases h : spec.stepId ∈ specs.map StepSpec.stepId
    · -- a repeated id meets the plan's own step
      rw [if_pos h, eraseDups_concat_of_mem h, Option.toList_none, List.append_nil]
    · rw [if_neg h, eraseDups_concat_of_not_mem h, List.filterMap_append]
      cases hnotice : redeclaration? steps planId spec.stepId <;> simp [hnotice]

theorem notices_ingest_plan (s : Session) (p : Plan) :
    (s.ingest (.planGenerated p)).2 = p.declaredIds.filterMap (redeclaration? s.steps p.id) :=
  foldl_declareStep_snd p.id p.steps s.steps

end Session

/-- **A plan takes over the live steps of its ids.**  One notice is written for
    each distinct id that was live under another plan before the event, in the
    order of the ids' first declarations, and names that other plan; nothing is
    written of an id that the plan repeats or that was live under the same plan id.
    Afterwards each declared id has the pending step of its last declaration, and
    every other id has what it had. -/
theorem plan_takes_over_steps (s : Session) (p : Plan) :
    (s.ingest (.planGenerated p)).2 =
        p.declaredIds.filterMap (Session.redeclaration? s.steps p.id) ∧
      p.declaredIds.Pairwise (fun x y => p.firstPlace x < p.firstPlace y) ∧
      (∀ n, n ∈ (s.ingest (.planGenerated p)).2 ↔
        ∃ stepId previous, p.Declares stepId ∧ s.step? stepId = some previous ∧
          previous.planId ≠ p.id ∧ n = .stepRedeclared stepId previous.planId p.id) ∧
      ∀ stepId, (s.ingest (.planGenerated p)).1.step? stepId =
        ((p.declaration? stepId).map (LiveStep.pending p.id)).or (s.step? stepId) := by
  refine ⟨s.notices_ingest_plan p, pairwise_idxOf_eraseDups _, ?_, ?_⟩
  · intro n
    rw [s.notices_ingest_plan p, List.mem_filterMap]
    constructor
    · rintro ⟨stepId, hid, hnotice⟩
      obtain ⟨previous, hlive, hother, hn⟩ := Session.redeclaration?_eq_some_iff.1 hnotice
      exact ⟨stepId, previous, Plan.mem_declaredIds.1 hid, hlive, hother, hn⟩
    · rintro ⟨stepId, previous, hdeclares, hlive, hother, hn⟩
      refine ⟨stepId, Plan.mem_declaredIds.2 hdeclares, ?_⟩
      exact Session.redeclaration?_eq_some_iff.2 ⟨previous, hlive, hother, hn⟩
  · intro stepId
    exact Session.find?_declareSteps p s.steps stepId

end MeetingRoom
