/-
  MeetingRoom/Proofs/Session/Coherence.lean
  =========================================
  **Plans and live steps fit together.**

  A plan is kept in the list of plans, and its steps in the table of live
  steps.  The two are never checked against each other, and a step that is not
  found is left out without a word; so it matters that in every session that
  can be reached each declared step is live (`Coherent.live`), that a live step
  is found under its own id (`Coherent.keyed`), and that the current id is that
  of the plan that arrived last (`Coherent.current`).
-/
import MeetingRoom.Proofs.Session.History
import MeetingRoom.Proofs.Session.StepTable

namespace MeetingRoom

/-! ### What an event does to the plans -/

def Event.plan? : Event → Option Plan
  | .planGenerated p => some p
  | _ => none

theorem Event.plan?_eq_some {e : Event} {p : Plan} :
    e.plan? = some p ↔ e = .planGenerated p := by
  cases e <;> simp [Event.plan?]

namespace Session

theorem plans_ingest (s : Session) (e : Event) :
    (s.ingest e).1.plans = s.plans ++ e.plan?.toList := by
  cases e with
  | stateChange p =>
    simp only [ingest, Event.plan?, Option.toList_none, List.append_nil]
    split <;> rfl
  | planGenerated p => rfl
  | status _ | message _ | toolStart _ | toolComplete _ | toolError _ | error _ | report _
  | finished _ | unknown _ _ => exact (List.append_nil _).symm

theorem currentPlanId_ingest (s : Session) (e : Event) :
    (s.ingest e).1.currentPlanId = (e.plan?.map Plan.id).or s.currentPlanId := by
  cases e with
  | stateChange p =>
    simp only [ingest, Event.plan?, Option.map_none, Option.none_or]
    split <;> rfl
  | planGenerated p | status _ | message _ | toolStart _ | toolComplete _ | toolError _ | error _
  | report _ | finished _ | unknown _ _ => rfl

/-- The plans of a run are those that arrived since the last pick, in order. -/
theorem plans_run (symbol : String) (as : List Action) :
    ((forSymbol symbol).run as).plans = (eventsSincePick as).filterMap Event.plan? := by
  refine run_induction (motive := fun s es => s.plans = es.filterMap Event.plan?)
    (fun _ => rfl) ?_ ?_ symbol as
  · intro s es a hpick hevent h
    obtain ⟨_, _, _, hs⟩ := apply_frame hpick hevent s
    rw [hs]
    exact h
  · intro s es e h
    rw [plans_ingest, h, List.filterMap_append]
    cases he : e.plan? <;> simp [he]

theorem stepsOf_of_plan? {s : Session} {id : Int64} {q : Plan} (h : s.plan? id = some q) :
    s.stepsOf id = q.steps.filterMap fun spec => s.step? spec.stepId := by
  simp only [stepsOf, h]

end Session

/-! ### The invariant -/

theorem Event.spec_rewrite (e : Event) (stepId : String) (x : LiveStep) :
    (e.rewrite stepId x).spec = x.spec := by
  unfold Event.rewrite
  split
  · cases e <;> rfl
  · rfl

theorem Event.stepId_of_seed? {e : Event} {stepId : String} {x : LiveStep}
    (h : e.seed? stepId = some x) : x.spec.stepId = stepId := by
  obtain ⟨p, rfl, spec, hspec, rfl⟩ := Event.seed?_eq_some.1 h
  exact (Plan.stepId_of_declaration? hspec).2

/-- Plans and live steps of a session fit together. -/
structure Coherent (s : Session) : Prop where
  /-- Each step that a plan declares is live. -/
  live : ∀ p ∈ s.plans, ∀ spec ∈ p.steps, (s.step? spec.stepId).isSome
  /-- A live step is found under its own id. -/
  keyed : ∀ stepId x, s.step? stepId = some x → x.spec.stepId = stepId
  /-- The current id is that of the plan that arrived last. -/
  current : s.currentPlanId = s.plans.getLast?.map Plan.id

namespace Coherent

theorem forSymbol (symbol : String) : Coherent (Session.forSymbol symbol) where
  live := fun p hp => by cases hp
  keyed := fun _ _ h => by cases h
  current := rfl

theorem ingest {s : Session} (h : Coherent s) (e : Event) : Coherent (s.ingest e).1 where
  live := by
    intro p hp spec hspec
    rw [Session.plans_ingest] at hp
    rw [Session.step?_ingest]
    rcases List.mem_append.1 hp with hp | hp
    · -- a step that was live is rewritten or seeded anew, and so still live
      have hlive := h.live p hp spec hspec
      cases e.seed? spec.stepId <;> simp [hlive]
    · -- the steps of the plan that has just arrived are seeded
      have hplan : e = .planGenerated p := Event.plan?_eq_some.1 (by simpa using hp)
      have hdeclared : (p.declaration? spec.stepId).isSome :=
        Plan.isSome_declaration?.2 ⟨spec, hspec, rfl⟩
      have hseed : (e.seed? spec.stepId).isSome := by
        rw [hplan]
        simpa [Event.seed?] using hdeclared
      rw [Option.isSome_or, hseed, Bool.true_or]
  keyed := by
    intro stepId x hx
    rw [Session.step?_ingest, Option.or_eq_some_iff] at hx
    rcases hx with hseed | ⟨_, hx⟩
    · exact Event.stepId_of_seed? hseed
    · obtain ⟨y, hy, rfl⟩ := Option.map_eq_some_iff.1 hx
      rw [Event.spec_rewrite]
      exact h.keyed stepId y hy
  current := by
    rw [Session.currentPlanId_ingest, Session.plans_ingest, h.current, List.getLast?_append]
    cases e.plan? <;> rfl

theorem run (symbol : String) (as : List Action) :
    Coherent ((Session.forSymbol symbol).run as) := by
  refine Session.run_induction (motive := fun s _ => Coherent s) forSymbol ?_
    (fun _ _ e h => h.ingest e) symbol as
  intro s es a hpick hevent h
  obtain ⟨_, _, _, hs⟩ := Session.apply_frame hpick hevent s
  rw [hs]
  exact ⟨h.live, h.keyed, h.current⟩

/-! ### Consequences -/

/-- The live steps of a plan are those under the ids it declares, one for each
    declaration and in the order of declaration. -/
theorem stepIds_stepsOf {s : Session} (h : Coherent s) {id : Int64} {q : Plan}
    (hq : s.plan? id = some q) :
    (s.stepsOf id).map (fun x => x.spec.stepId) = q.steps.map StepSpec.stepId := by
  have hmem : q ∈ s.plans := List.mem_of_find?_eq_some hq
  have hlive := h.live q hmem
  rw [Session.stepsOf_of_plan? hq]
  generalize q.steps = specs at hlive ⊢
  induction specs with
  | nil => rfl
  | cons spec rest ih =>
    obtain ⟨x, hx⟩ := Option.isSome_iff_exists.1 (hlive spec List.mem_cons_self)
    have hrest := ih fun spec' hspec' => hlive spec' (List.mem_cons_of_mem _ hspec')
    have hkey : x.spec.stepId = spec.stepId := h.keyed _ x hx
    simp only [List.filterMap_cons, hx, List.map_cons, hkey] at hrest ⊢
    rw [hrest]

end Coherent

end MeetingRoom
