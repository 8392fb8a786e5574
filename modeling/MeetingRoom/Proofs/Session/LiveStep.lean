/-
  MeetingRoom/Proofs/Session/LiveStep.lean
  ========================================
  **The live steps as a function of the history.**

  What is found under a step id after a run is decided by the events since the
  symbol was picked last: by the last plan among them that declares the id, and
  by the tool events for the id that come after it.  Each part of a live step
  has one kind of event that writes it, and each of these overwrites by a rule
  of its own; `LiveStep.after` says which.

  The main statement is `liveSteps_run`.
-/
import MeetingRoom.Proofs.Session.History
import MeetingRoom.Proofs.Session.StepTable

namespace MeetingRoom

/-! ### What tool events say -/

namespace Event

def stepStatus? : Event → Option StepStatus
  | .toolStart _ => some .running
  | .toolComplete _ => some .completed
  | .toolError _ => some .error
  | _ => none

def completion? : Event → Option ToolCompletion
  | .toolComplete p => some p
  | _ => none

def toolFailure? : Event → Option ToolFailure
  | .toolError p => some p
  | _ => none

/-- The position that a start states: both the number of the step and the total. -/
def statedPosition? : Event → Option StepPosition
  | .toolStart { step := some step, total := some total, .. } => some ⟨step, total⟩
  | _ => none

theorem statedPosition?_toolStart (p : ToolStart) :
    statedPosition? (.toolStart p) = p.position := by
  obtain ⟨stepId, step, total, toolName⟩ := p
  cases step <;> cases total <;> rfl

end Event

/-- The tool events for a step, in order. -/
def toolEvents (stepId : String) (es : List Event) : List Event :=
  es.filter fun e => e.stepId? = some stepId

namespace LiveStep

/-- The state of a step that was declared and to which tool events then
    referred.  The last of them gives the status.  The last completion gives the
    quality and whether there is data, also if it says nothing of them; the last
    failure gives the error; the last start that states a position gives that. -/
def after (planId : Int64) (spec : StepSpec) (tools : List Event) : LiveStep where
  planId := planId
  spec := spec
  status := (tools.filterMap Event.stepStatus?).getLast?.getD .pending
  quality := (tools.filterMap Event.completion?).getLast?.bind ToolCompletion.quality
  hasData := (tools.filterMap Event.completion?).getLast?.bind ToolCompletion.hasData
  error := (tools.filterMap Event.toolFailure?).getLast?.bind ToolFailure.error
  position := (tools.filterMap Event.statedPosition?).getLast?

theorem after_concat (planId : Int64) (spec : StepSpec) (tools : List Event) {e : Event}
    {stepId : String} (h : e.stepId? = some stepId) :
    after planId spec (tools ++ [e]) = e.onStep (after planId spec tools) := by
  cases e with
  | toolStart p =>
    -- the position is the one field that a later event may leave as it is
    cases hp : p.position <;>
      simp [after, Event.onStep, Session.startStep, Event.stepStatus?, Event.completion?,
        Event.toolFailure?, Event.statedPosition?_toolStart, hp]
  | toolComplete p =>
    simp [after, Event.onStep, Session.completeStep, Event.stepStatus?, Event.completion?,
      Event.toolFailure?, Event.statedPosition?]
  | toolError p =>
    simp [after, Event.onStep, Session.failStep, Event.stepStatus?, Event.completion?,
      Event.toolFailure?, Event.statedPosition?]
  | status _ | message _ | planGenerated _ | stateChange _ | error _ | report _ | finished _
  | unknown _ _ => cases h

theorem after_toolEvents_concat (planId : Int64) (spec : StepSpec) (stepId : String)
    (es : List Event) (e : Event) :
    after planId spec (toolEvents stepId (es ++ [e])) =
      e.rewrite stepId (after planId spec (toolEvents stepId es)) := by
  rw [toolEvents, List.filter_append]
  by_cases h : e.stepId? = some stepId
  · rw [Event.rewrite_of_stepId? h, List.filter_cons_of_pos (by simpa using h), List.filter_nil,
      after_concat planId spec _ h]
    rfl
  · rw [Event.rewrite_of_ne h, List.filter_cons_of_neg (by simpa using h), List.filter_nil,
      List.append_nil]
    rfl

end LiveStep

/-! ### The last plan to declare an id -/

/-- Of the events, `p` is the last plan that declares the id, `spec` is the last
    of its declarations of the id, and `later` are the events after the plan. -/
structure LastDeclared (stepId : String) (es : List Event) (p : Plan) (spec : StepSpec)
    (later : List Event) : Prop where
  arrival : ∃ earlier, es = earlier ++ .planGenerated p :: later
  declaration : p.declaration? stepId = some spec
  last : ∀ q, .planGenerated q ∈ later → ¬ q.Declares stepId

/-- A plan that declares the id is the last to do so when it has just arrived. -/
theorem lastDeclared_concat_plan {stepId : String} {p₀ : Plan} {spec₀ : StepSpec}
    (h : p₀.declaration? stepId = some spec₀) (es : List Event) (p : Plan) (spec : StepSpec)
    (later : List Event) :
    LastDeclared stepId (es ++ [.planGenerated p₀]) p spec later ↔
      p = p₀ ∧ spec = spec₀ ∧ later = [] := by
  constructor
  · intro hl
    obtain ⟨earlier, hes⟩ := hl.arrival
    rcases concat_eq_append_cons hes with ⟨rfl, hp⟩ | ⟨later', rfl, -⟩
    · cases hp
      exact ⟨rfl, by simpa [h] using hl.declaration.symm, rfl⟩
    · -- then the new plan is among the later events, which declare the id no more
      have hno := hl.last p₀ (by simp)
      exact absurd (Plan.isSome_declaration?.1 (by rw [h]; rfl)) hno
  · rintro ⟨rfl, rfl, rfl⟩
    exact ⟨⟨es, rfl⟩, h, fun q hq => by cases hq⟩

/-- An event that does not declare the id only comes later than the last plan
    that does. -/
theorem lastDeclared_concat_of_seed?_eq_none {stepId : String} {e : Event}
    (h : e.seed? stepId = none) (es : List Event) (p : Plan) (spec : StepSpec)
    (later : List Event) :
    LastDeclared stepId (es ++ [e]) p spec later ↔
      ∃ later', later = later' ++ [e] ∧ LastDeclared stepId es p spec later' := by
  constructor
  · intro hl
    obtain ⟨earlier, hes⟩ := hl.arrival
    rcases concat_eq_append_cons hes with ⟨rfl, he⟩ | ⟨later', rfl, hes'⟩
    · have hno := Event.seed?_eq_none.1 h p he
      exact absurd (Plan.isSome_declaration?.1 (by rw [hl.declaration]; rfl)) hno
    · exact ⟨later', rfl, ⟨earlier, hes'⟩, hl.declaration, fun q hq =>
        hl.last q (List.mem_append_left _ hq)⟩
  · rintro ⟨later', rfl, hl⟩
    obtain ⟨earlier, hes⟩ := hl.arrival
    refine ⟨⟨earlier, by simp [hes]⟩, hl.declaration, ?_⟩
    intro q hq
    rcases List.mem_append.1 hq with hq | hq
    · exact hl.last q hq
    · exact Event.seed?_eq_none.1 h q (List.mem_singleton.1 hq).symm

theorem exists_lastDeclared {stepId : String} {es : List Event} :
    (∃ p spec later, LastDeclared stepId es p spec later) ↔
      ∃ p, .planGenerated p ∈ es ∧ p.Declares stepId := by
  constructor
  · rintro ⟨p, spec, later, hl⟩
    obtain ⟨earlier, rfl⟩ := hl.arrival
    exact ⟨p, by simp, Plan.isSome_declaration?.1 (by rw [hl.declaration]; rfl)⟩
  · rintro ⟨p, hp, hd⟩
    induction es using List.reverseRecOn with
    | nil => cases hp
    | append_singleton es e ih =>
      by_cases hseed : e.seed? stepId = none
      · have hmem : .planGenerated p ∈ es := by
          rcases List.mem_append.1 hp with hp | hp
          · exact hp
          · have he := (List.mem_singleton.1 hp).symm
            exact absurd hd (Event.seed?_eq_none.1 hseed p he)
        obtain ⟨q, spec, later, hl⟩ := ih hmem
        exact ⟨q, spec, later ++ [e],
          (lastDeclared_concat_of_seed?_eq_none hseed ..).2 ⟨later, rfl, hl⟩⟩
      · obtain ⟨q, he, hq⟩ : ∃ q, e = .planGenerated q ∧ q.Declares stepId := by
          simpa [Event.seed?_eq_none] using hseed
        obtain ⟨spec, hspec⟩ := Option.isSome_iff_exists.1 (Plan.isSome_declaration?.2 hq)
        exact ⟨q, spec, [], he ▸ (lastDeclared_concat_plan hspec ..).2 ⟨rfl, rfl, rfl⟩⟩

/-! ### The live steps of a run -/

/-- The live step under an id is what the remembered events make of it. -/
def Tracks (stepId : String) (s : Session) (es : List Event) : Prop :=
  ∀ x, s.step? stepId = some x ↔
    ∃ p spec later, LastDeclared stepId es p spec later ∧
      x = .after p.id spec (toolEvents stepId later)

theorem tracks_forSymbol (stepId symbol : String) :
    Tracks stepId (Session.forSymbol symbol) [] := by
  intro x
  constructor
  · intro h
    cases h
  · rintro ⟨p, spec, later, hl, _⟩
    obtain ⟨earlier, hes⟩ := hl.arrival
    simp at hes

theorem Tracks.ingest {stepId : String} {s : Session} {es : List Event}
    (h : Tracks stepId s es) (e : Event) : Tracks stepId (s.ingest e).1 (es ++ [e]) := by
  intro x
  rw [Session.step?_ingest]
  cases hseed : e.seed? stepId with
  | some y =>
    -- the event is a plan that declares the id: its step is pending, whatever was there
    obtain ⟨p, rfl, spec, hspec, rfl⟩ := Event.seed?_eq_some.1 hseed
    simp only [Option.some_or, Option.some.injEq, lastDeclared_concat_plan hspec]
    constructor
    · rintro rfl
      exact ⟨p, spec, [], ⟨rfl, rfl, rfl⟩, rfl⟩
    · rintro ⟨_, _, _, ⟨rfl, rfl, rfl⟩, rfl⟩
      rfl
  | none =>
    simp only [Option.none_or, Option.map_eq_some_iff, lastDeclared_concat_of_seed?_eq_none hseed]
    constructor
    · rintro ⟨y, hy, rfl⟩
      obtain ⟨p, spec, later, hl, rfl⟩ := (h y).1 hy
      exact ⟨p, spec, later ++ [e], ⟨later, rfl, hl⟩,
        (LiveStep.after_toolEvents_concat p.id spec stepId later e).symm⟩
    · rintro ⟨p, spec, _, ⟨later, rfl, hl⟩, rfl⟩
      exact ⟨_, (h _).2 ⟨p, spec, later, hl, rfl⟩,
        (LiveStep.after_toolEvents_concat p.id spec stepId later e).symm⟩

theorem tracks_run (stepId symbol : String) (as : List Action) :
    Tracks stepId ((Session.forSymbol symbol).run as) (eventsSincePick as) := by
  refine Session.run_induction (motive := Tracks stepId) (tracks_forSymbol stepId) ?_
    (fun s es e h => h.ingest e) symbol as
  intro s es a hpick hevent h
  obtain ⟨_, _, _, hs⟩ := Session.apply_frame hpick hevent s
  rw [hs]
  exact h

/-- **The live steps of a run.**  There is a live step under an id if and only
    if a plan since the last pick of a symbol declares the id.  It is then the
    step of the last such plan, by that plan's last declaration of the id, after
    the tool events for the id that came later than the plan. -/
theorem liveSteps_run (symbol : String) (as : List Action) (stepId : String) :
    ((((Session.forSymbol symbol).run as).step? stepId).isSome ↔
        ∃ p, .planGenerated p ∈ eventsSincePick as ∧ p.Declares stepId) ∧
      ∀ x, ((Session.forSymbol symbol).run as).step? stepId = some x ↔
        ∃ p spec later, LastDeclared stepId (eventsSincePick as) p spec later ∧
          x = .after p.id spec (toolEvents stepId later) := by
  have htracks := tracks_run stepId symbol as
  refine ⟨?_, htracks⟩
  rw [← exists_lastDeclared, Option.isSome_iff_exists]
  constructor
  · rintro ⟨x, hx⟩
    obtain ⟨p, spec, later, hl, _⟩ := (htracks x).1 hx
    exact ⟨p, spec, later, hl⟩
  · rintro ⟨p, spec, later, hl⟩
    exact ⟨_, (htracks _).2 ⟨p, spec, later, hl, rfl⟩⟩

end MeetingRoom
