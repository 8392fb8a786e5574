/-
  MeetingRoom/Proofs/Session/Streams.lean
  =======================================
  **Which orders of events make no difference.**

  The events of a meeting run in several streams, and each part of a session
  follows one of them: the transcript the messages, the activity flag and the
  status line the activity events, the live step under an id the plans and the
  tool events for that id.  A part that follows a stream is left alone by all
  other events and does not look at the other parts (`Store.Follows`), so only
  the order within its stream counts for it.

  The count of orphaned tool events follows no single stream, because it adds
  up over all ids.  The orphaned events of one id do follow the stream of that
  id (`Store.filter_orphans`), and so two orders have the same orphaned events
  up to order.  Which event was ignored last is the only thing that depends on
  the order across streams.
-/
import MeetingRoom.Proofs.Session.Coherence
import MeetingRoom.Proofs.Session.Tally
import MeetingRoom.Proofs.Session.Transcript

namespace MeetingRoom

/-! ### Lists with the same parts -/

/-- Lists are rearrangements of each other if every part by a test is the same in
    both and every element belongs to a part. -/
theorem perm_of_filter_eq {α ι : Type} {xs ys : List α} (part : ι → α → Bool)
    (hcover : ∀ x, x ∈ xs ∨ x ∈ ys → ∃ i, part i x = true)
    (h : ∀ i, xs.filter (part i) = ys.filter (part i)) : xs.Perm ys := by
  classical
  rw [List.perm_iff_count]
  intro x
  by_cases hpart : ∃ i, part i x = true
  · obtain ⟨i, hi⟩ := hpart
    rw [← List.count_filter hi, h i, List.count_filter hi]
  · have hxs : x ∉ xs := fun hx => hpart (hcover x (.inl hx))
    have hys : x ∉ ys := fun hx => hpart (hcover x (.inr hx))
    rw [List.count_eq_zero_of_not_mem hxs, List.count_eq_zero_of_not_mem hys]

/-! ### Streams -/

inductive EventStream where
  | transcript
  | activity
  | reports
  | unknowns
  | plans
  /-- The plans, and the tool events for one step. -/
  | step (stepId : String)

def EventStream.carries : EventStream → Event → Bool
  | .transcript, .message _ => true
  | .activity, .status _ => true
  | .activity, .stateChange _ => true
  | .activity, .error _ => true
  | .activity, .finished _ => true
  | .reports, .report _ => true
  | .unknowns, .unknown _ _ => true
  | .plans, .planGenerated _ => true
  | .step _, .planGenerated _ => true
  | .step stepId, e => e.stepId? == some stepId
  | _, _ => false

/-- The two sequences differ at most in how their streams are interleaved. -/
def SameStreams (es fs : List Event) : Prop :=
  ∀ stream : EventStream, es.filter stream.carries = fs.filter stream.carries

theorem exists_stream (e : Event) : ∃ stream : EventStream, stream.carries e = true := by
  cases e with
  | message _ => exact ⟨.transcript, rfl⟩
  | status _ | stateChange _ | error _ | finished _ => exact ⟨.activity, rfl⟩
  | report _ => exact ⟨.reports, rfl⟩
  | unknown _ _ => exact ⟨.unknowns, rfl⟩
  | planGenerated _ => exact ⟨.plans, rfl⟩
  | toolStart p | toolComplete p | toolError p =>
    exact ⟨.step p.stepId, by simp [EventStream.carries, Event.stepId?]⟩

theorem SameStreams.perm {es fs : List Event} (h : SameStreams es fs) : es.Perm fs :=
  perm_of_filter_eq EventStream.carries (fun e _ => exists_stream e) h

theorem carries_step_eq_false {stepId : String} {e : Event}
    (h : (EventStream.step stepId).carries e = false) :
    e.seed? stepId = none ∧ e.stepId? ≠ some stepId := by
  cases e with
  | planGenerated p => cases h
  | toolStart p | toolComplete p | toolError p =>
    exact ⟨rfl, by simpa [EventStream.carries] using h⟩
  | status _ | message _ | stateChange _ | error _ | report _ | finished _ | unknown _ _ =>
    exact ⟨rfl, by simp [Event.stepId?]⟩

def Event.report? : Event → Option Report
  | .report r => some r
  | _ => none

theorem Session.report_ingest (s : Session) (e : Event) :
    (s.ingest e).1.report = e.report?.or s.report := by
  cases e with
  | stateChange p =>
    simp only [ingest, Event.report?, Option.none_or]
    split <;> rfl
  | status _ | message _ | planGenerated _ | toolStart _ | toolComplete _ | toolError _ | error _
  | report _ | finished _ | unknown _ _ => rfl

/-! ### Parts that follow a stream -/

namespace Store

/-- A part of the store that only the events of one stream change, in a way that
    depends on the part alone. -/
structure Follows {β : Type} (stream : EventStream) (part : Store → β) : Prop where
  kept : ∀ s e, stream.carries e = false → part (s.ingest e).store = part s
  determined : ∀ s t e, part s = part t → part (s.ingest e).store = part (t.ingest e).store

theorem Follows.of_update {β : Type} {stream : EventStream} {part : Store → β}
    (update : Event → β → β) (hpart : ∀ s e, part (s.ingest e).store = update e (part s))
    (hkept : ∀ e x, stream.carries e = false → update e x = x) : Follows stream part where
  kept s e h := by rw [hpart, hkept e _ h]
  determined s t e h := by rw [hpart, hpart, h]

/-- The events of other streams can be left out. -/
theorem Follows.ingestAll_filter {β : Type} {stream : EventStream} {part : Store → β}
    (h : Follows stream part) {s t : Store} (hpart : part s = part t) (es : List Event) :
    part (s.ingestAll es) = part (t.ingestAll (es.filter stream.carries)) := by
  -- the two runs agree on the part alone, so both stores vary in the induction
  induction es generalizing s t with
  | nil => exact hpart
  | cons e rest ih =>
    rw [ingestAll_cons]
    cases hcarries : stream.carries e with
    | true =>
      rw [List.filter_cons_of_pos hcarries, ingestAll_cons]
      exact ih (h.determined s t e hpart)
    | false =>
      rw [List.filter_cons_of_neg (by simp [hcarries])]
      exact ih ((h.kept s e hcarries).trans hpart)

theorem Follows.ingestAll_eq {β : Type} {stream : EventStream} {part : Store → β}
    (h : Follows stream part) {es fs : List Event} (hsame : SameStreams es fs) (s : Store) :
    part (s.ingestAll es) = part (s.ingestAll fs) := by
  rw [h.ingestAll_filter rfl es, hsame stream, ← h.ingestAll_filter rfl fs]

/-! ### The parts of a store -/

theorem session_ingest (s : Store) (e : Event) :
    (s.ingest e).store.session = (s.session.ingest e).1 := rfl

theorem follows_symbol (stream : EventStream) : Follows stream fun s => s.session.symbol :=
  .of_update (fun _ symbol => symbol) (fun s e => s.symbol_ingest e) fun _ _ _ => rfl

theorem follows_transcript : Follows .transcript fun s => s.session.transcript := by
  refine .of_update (fun e transcript => transcript ++ e.message?.toList) ?_ ?_
  · intro s e
    exact s.session.transcript_ingest e
  · intro e transcript h
    cases e <;> first | exact List.append_nil _ | cases h

theorem follows_activity :
    Follows .activity fun s => (s.session.busy, s.session.statusLine) where
  kept s e h := by
    cases e with
    | status _ | stateChange _ | error _ | finished _ => cases h
    | message _ | planGenerated _ | toolStart _ | toolComplete _ | toolError _ | report _
    | unknown _ _ => rfl
  determined s t e h := by
    cases e with
    | status p => exact congrArg (fun x => (x.1, p.message.getD "")) h
    | stateChange p =>
      simp only [session_ingest, Session.ingest]
      split
      · exact congrArg (fun x => (false, x.2)) h
      · exact h
    | error _ | finished _ => rfl
    | message _ | planGenerated _ | toolStart _ | toolComplete _ | toolError _ | report _
    | unknown _ _ => exact h

theorem follows_report : Follows .reports fun s => s.session.report := by
  refine .of_update (fun e report => e.report?.or report) ?_ ?_
  · intro s e
    exact s.session.report_ingest e
  · intro e report h
    cases e <;> first | rfl | cases h

theorem follows_plans : Follows .plans fun s => (s.session.plans, s.session.currentPlanId) := by
  refine .of_update
    (fun e x => (x.1 ++ e.plan?.toList, (e.plan?.map Plan.id).or x.2)) ?_ ?_
  · intro s e
    exact Prod.ext (s.session.plans_ingest e) (s.session.currentPlanId_ingest e)
  · intro e x h
    have hplan : e.plan? = none := by cases e <;> first | rfl | cases h
    rw [hplan, Option.toList_none, List.append_nil]
    rfl

theorem follows_step (stepId : String) :
    Follows (.step stepId) fun s => s.session.step? stepId := by
  refine .of_update (fun e step => (e.seed? stepId).or (step.map (e.rewrite stepId))) ?_ ?_
  · intro s e
    exact s.session.step?_ingest e stepId
  · intro e step h
    obtain ⟨hseed, hother⟩ := carries_step_eq_false h
    have hrewrite : e.rewrite stepId = id := funext (Event.rewrite_of_ne hother)
    rw [hseed, hrewrite, Option.none_or, Option.map_id, id]

end Store

/-! ### Ignored events -/

/-- The event is a tool event for a step that is not live. -/
def Session.isOrphan (s : Session) (e : Event) : Bool :=
  match e.stepId? with
  | some stepId => (s.step? stepId).isNone
  | none => false

theorem Session.dropped?_eq (s : Session) (e : Event) :
    s.dropped? e = if e.isUnknown = true ∨ s.isOrphan e = true then some e.asDropped else none := by
  cases e with
  | unknown _ _ => rfl
  | toolStart p | toolComplete p | toolError p =>
    have horphan : (s.step? p.stepId).isNone = !s.steps.contains p.stepId :=
      (Option.not_isSome _).symm
    simp only [dropped?, isOrphan, Event.stepId?, Event.isUnknown, horphan]
    cases s.steps.contains p.stepId <;> rfl
  | status _ | message _ | planGenerated _ | stateChange _ | error _ | report _ | finished _ => rfl

theorem Session.isOrphan_of_stepId?_eq_none {s : Session} {e : Event} (h : e.stepId? = none) :
    s.isOrphan e = false := by
  simp only [isOrphan, h]

namespace Store

theorem dropped_ingest (s : Store) (e : Event) :
    (s.ingest e).store.dropped =
      if e.isUnknown = true ∨ s.session.isOrphan e = true then s.dropped.record e.asDropped
      else s.dropped := by
  show s.tallyAfter (.ingest e) = _
  rw [tallyAfter, Session.dropped?_eq]
  by_cases h : e.isUnknown = true ∨ s.session.isOrphan e = true
  · rw [if_pos h, if_pos h]
  · rw [if_neg h, if_neg h]

/-- The two counts of the tally go up for different events. -/
theorem counts_ingest (s : Store) (e : Event) :
    (s.ingest e).store.dropped.unknownEvents =
        s.dropped.unknownEvents + (if e.isUnknown = true then 1 else 0) ∧
      (s.ingest e).store.dropped.orphanedSteps =
        s.dropped.orphanedSteps + if s.session.isOrphan e = true then 1 else 0 := by
  rw [dropped_ingest]
  cases e with
  | unknown _ _ => exact ⟨rfl, rfl⟩
  | toolStart p | toolComplete p | toolError p =>
    simp only [Event.isUnknown, Bool.false_eq_true, false_or, if_false]
    split <;> exact ⟨rfl, rfl⟩
  | status _ | message _ | planGenerated _ | stateChange _ | error _ | report _ | finished _ =>
    exact ⟨rfl, rfl⟩

theorem follows_unknownEvents : Follows .unknowns fun s => s.dropped.unknownEvents := by
  refine .of_update (fun e n => n + if e.isUnknown = true then 1 else 0) ?_ ?_
  · intro s e
    exact (s.counts_ingest e).1
  · intro e n h
    cases e <;> first | rfl | cases h

/-- The events of a sequence that are orphaned when their turn comes. -/
def orphans (s : Store) (es : List Event) : List Event :=
  ((moments (fun s e => (s.ingest e).store) s es).filter fun m => m.1.session.isOrphan m.2).map
    Prod.snd

theorem orphans_cons (s : Store) (e : Event) (rest : List Event) :
    s.orphans (e :: rest) =
      (if s.session.isOrphan e = true then [e] else []) ++ (s.ingest e).store.orphans rest := by
  rw [orphans, moments, List.filter_cons]
  split <;> rfl

theorem orphanedSteps_ingestAll (s : Store) (es : List Event) :
    (s.ingestAll es).dropped.orphanedSteps =
      s.dropped.orphanedSteps + (s.orphans es).length := by
  induction es generalizing s with
  | nil => rfl
  | cons e rest ih =>
    rw [ingestAll_cons, ih, (s.counts_ingest e).2, orphans_cons, List.length_append]
    split <;> simp [Nat.add_assoc]

theorem mem_orphans {s : Store} {es : List Event} {e : Event} (h : e ∈ s.orphans es) :
    ∃ stepId, e.stepId? = some stepId := by
  obtain ⟨m, hm, rfl⟩ := List.mem_map.1 h
  have horphan : m.1.session.isOrphan m.2 = true := (List.mem_filter.1 hm).2
  cases hstep : m.2.stepId? with
  | none =>
    rw [Session.isOrphan_of_stepId?_eq_none hstep] at horphan
    cases horphan
  | some stepId => exact ⟨stepId, rfl⟩

/-- The orphaned events of one step follow the stream of the step. -/
theorem filter_orphans {stepId : String} {s t : Store}
    (h : s.session.step? stepId = t.session.step? stepId) (es : List Event) :
    (s.orphans es).filter (fun e => e.stepId? == some stepId) =
      (t.orphans (es.filter (EventStream.step stepId).carries)).filter
        fun e => e.stepId? == some stepId := by
  induction es generalizing s t with
  | nil => rfl
  | cons e rest ih =>
    rw [orphans_cons, List.filter_append]
    cases hcarries : (EventStream.step stepId).carries e with
    | true =>
      rw [List.filter_cons_of_pos hcarries, orphans_cons, List.filter_append]
      rw [ih ((follows_step stepId).determined s t e h)]
      -- only an event of this step counts, and both sessions agree on the step
      by_cases hstep : e.stepId? = some stepId
      · have horphan : s.session.isOrphan e = t.session.isOrphan e := by
          simp only [Session.isOrphan, hstep, h]
        rw [horphan]
      · have hother : ∀ u : Store,
            (if u.session.isOrphan e = true then [e] else []).filter
              (fun e => e.stepId? == some stepId) = [] := by
          intro u
          split <;> simp [hstep]
        rw [hother s, hother t]
    | false =>
      have hstep : e.stepId? ≠ some stepId := (carries_step_eq_false hcarries).2
      have hhead : (if s.session.isOrphan e = true then [e] else []).filter
          (fun e => e.stepId? == some stepId) = [] := by
        split <;> simp [hstep]
      rw [List.filter_cons_of_neg (by simp [hcarries]), hhead, List.nil_append]
      exact ih (((follows_step stepId).kept s e hcarries).trans h)

theorem perm_orphans {es fs : List Event} (h : SameStreams es fs) (s : Store) :
    (s.orphans es).Perm (s.orphans fs) := by
  refine perm_of_filter_eq (fun stepId e => e.stepId? == some stepId) ?_ ?_
  · rintro e (he | he)
    · obtain ⟨stepId, hstep⟩ := mem_orphans he
      exact ⟨stepId, by simp [hstep]⟩
    · obtain ⟨stepId, hstep⟩ := mem_orphans he
      exact ⟨stepId, by simp [hstep]⟩
  · intro stepId
    rw [filter_orphans rfl es, h (.step stepId), ← filter_orphans rfl fs]

end Store

/-! ### Interleavings -/

/-- A session is determined by its parts. -/
theorem Session.eq_of_parts {s t : Session} (hsymbol : s.symbol = t.symbol)
    (htranscript : s.transcript = t.transcript)
    (hactivity : (s.busy, s.statusLine) = (t.busy, t.statusLine))
    (hplans : (s.plans, s.currentPlanId) = (t.plans, t.currentPlanId))
    (hsteps : ∀ stepId, s.step? stepId = t.step? stepId) (hreport : s.report = t.report) :
    s = t := by
  obtain ⟨hbusy, hstatus⟩ := Prod.mk.inj hactivity
  obtain ⟨hlist, hcurrent⟩ := Prod.mk.inj hplans
  have htable : s.steps = t.steps := Dictionary.ext_find? hsteps
  cases s
  cases t
  simp only [Session.mk.injEq]
  exact ⟨hsymbol, htranscript, hbusy, hstatus, hlist, hcurrent, htable, hreport⟩

/-- **The order across streams makes no difference.**  Two sequences of events that
    agree on every stream lead from one store to the same session, the same counts
    of ignored events and the same version. -/
theorem ingestAll_eq_of_sameStreams {es fs : List Event} (h : SameStreams es fs) (s : Store) :
    (s.ingestAll es).session = (s.ingestAll fs).session ∧
      (s.ingestAll es).dropped.unknownEvents = (s.ingestAll fs).dropped.unknownEvents ∧
      (s.ingestAll es).dropped.orphanedSteps = (s.ingestAll fs).dropped.orphanedSteps ∧
      (s.ingestAll es).version = (s.ingestAll fs).version := by
  refine ⟨?_, Store.follows_unknownEvents.ingestAll_eq h s, ?_, ?_⟩
  · exact Session.eq_of_parts
      ((Store.follows_symbol .transcript).ingestAll_eq h s)
      (Store.follows_transcript.ingestAll_eq h s)
      (Store.follows_activity.ingestAll_eq h s)
      (Store.follows_plans.ingestAll_eq h s)
      (fun stepId => (Store.follows_step stepId).ingestAll_eq h s)
      (Store.follows_report.ingestAll_eq h s)
  · rw [Store.orphanedSteps_ingestAll, Store.orphanedSteps_ingestAll,
      (Store.perm_orphans h s).length_eq]
  · rw [Store.version_ingestAll, Store.version_ingestAll, h.perm.length_eq]

/-! ### A meeting in two orders -/

def researchEvents : List Event :=
  [.message { agentId := "m", agentName := "Mia", role := .known .moderator, content := "hello" },
    .toolStart { stepId := "early" },
    .planGenerated
      { id := 1, objective := "review"
        steps :=
          [{ stepId := "bars", toolName := "bars" }, { stepId := "news", toolName := "news" }] },
    .toolStart { stepId := "bars" },
    .toolError { stepId := "bars", error := some "no data" },
    .toolComplete { stepId := "news" },
    .finished {}]

/-- The same events: the end of the turn comes before the plan, and the steps are
    worked on the other way round. -/
def reorderedEvents : List Event :=
  [.toolStart { stepId := "early" },
    .finished {},
    .planGenerated
      { id := 1, objective := "review"
        steps :=
          [{ stepId := "bars", toolName := "bars" }, { stepId := "news", toolName := "news" }] },
    .toolComplete { stepId := "news" },
    .toolStart { stepId := "bars" },
    .message { agentId := "m", agentName := "Mia", role := .known .moderator, content := "hello" },
    .toolError { stepId := "bars", error := some "no data" }]

theorem sameStreams_reorderedEvents : SameStreams researchEvents reorderedEvents := by
  intro stream
  cases stream with
  | transcript | activity | reports | unknowns | plans => rfl
  | step stepId =>
    by_cases hearly : stepId = "early"
    · subst hearly
      rfl
    by_cases hbars : stepId = "bars"
    · subst hbars
      rfl
    by_cases hnews : stepId = "news"
    · subst hnews
      rfl
    simp [researchEvents, reorderedEvents, EventStream.carries, Event.stepId?, List.filter_cons,
      Ne.symm hearly, Ne.symm hbars, Ne.symm hnews]

theorem ingestAll_reorderedEvents :
    SameStreams researchEvents reorderedEvents ∧ researchEvents ≠ reorderedEvents ∧
      ((Store.new.ingestAll researchEvents).session =
          (Store.new.ingestAll reorderedEvents).session ∧
        (Store.new.ingestAll researchEvents).dropped.unknownEvents =
          (Store.new.ingestAll reorderedEvents).dropped.unknownEvents ∧
        (Store.new.ingestAll researchEvents).dropped.orphanedSteps =
          (Store.new.ingestAll reorderedEvents).dropped.orphanedSteps ∧
        (Store.new.ingestAll researchEvents).version =
          (Store.new.ingestAll reorderedEvents).version) := by
  refine ⟨sameStreams_reorderedEvents, ?_, ?_⟩
  · intro h
    cases h
  · exact ingestAll_eq_of_sameStreams sameStreams_reorderedEvents Store.new

end MeetingRoom
