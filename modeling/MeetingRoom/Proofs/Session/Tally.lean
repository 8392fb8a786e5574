/-
  MeetingRoom/Proofs/Session/Tally.lean
  =====================================
  **What the store counts.**

  The store decides that an event is ignored before it applies it, and the
  transition decides on its own what to apply; the two look at the event and at
  the table of live steps.  Here both are compared with the history of the
  session: an event is ignored if its type is unknown, or if it refers to a step
  that no plan before it declares (`dropped?_run`).  Then the tally is a count
  over the history, and the ignored events are those that can be left out of a
  run without changing the session (`tally_of_run`).
-/
import MeetingRoom.Proofs.Session.LiveStep
import MeetingRoom.Session.Store

namespace MeetingRoom

/-! ### Elements of a list and what came before them -/

/-- The elements of a list that pass a test of the elements before them. -/
def filterByPast {α : Type} (test : List α → α → Bool) (xs : List α) : List α :=
  (xs.zipIdx.filter fun x => test (xs.take x.2) x.1).map Prod.fst

theorem filterByPast_concat {α : Type} (test : List α → α → Bool) (xs : List α) (x : α) :
    filterByPast test (xs ++ [x]) =
      filterByPast test xs ++ if test xs x = true then [x] else [] := by
  have hpast : (xs.zipIdx.filter fun y => test ((xs ++ [x]).take y.2) y.1) =
      xs.zipIdx.filter fun y => test (xs.take y.2) y.1 := by
    refine List.filter_congr fun y hy => ?_
    have hlt : y.2 < xs.length := by simpa using (List.mem_zipIdx hy).2.1
    rw [List.take_append_of_le_length (Nat.le_of_lt hlt)]
  rw [filterByPast, List.zipIdx_append, List.filter_append, List.map_append, hpast]
  by_cases h : test xs x = true <;> simp [filterByPast, h]

/-! ### Ignored events -/

namespace Event

def declares (stepId : String) : Event → Bool
  | .planGenerated p => p.steps.any fun spec => spec.stepId == stepId
  | _ => false

/-- The event is a tool event for a step that no plan before it declares. -/
def isOrphanAfter (past : List Event) (e : Event) : Bool :=
  match e.stepId? with
  | some stepId => !past.any (declares stepId)
  | none => false

def isIgnoredAfter (past : List Event) (e : Event) : Bool :=
  e.isUnknown || e.isOrphanAfter past

def asDropped (e : Event) : DroppedEvent := ⟨e.typeName, e.stepId?⟩

theorem isSome_seed? (e : Event) (stepId : String) :
    (e.seed? stepId).isSome = e.declares stepId := by
  cases e with
  | planGenerated p =>
    rw [Bool.eq_iff_iff]
    simp [seed?, declares, Plan.isSome_declaration?, Plan.Declares]
  | status _ | message _ | toolStart _ | toolComplete _ | toolError _ | stateChange _ | error _
  | report _ | finished _ | unknown _ _ => rfl

theorem isOrphanAfter_of_isUnknown {e : Event} (h : e.isUnknown = true) (past : List Event) :
    e.isOrphanAfter past = false := by
  cases e <;> first | rfl | cases h

theorem isSome_stepId?_of_isIgnoredAfter {e : Event} {past : List Event}
    (h : e.isIgnoredAfter past = true) : e.stepId?.isSome = !e.isUnknown := by
  cases e <;> first | rfl | cases h

end Event

namespace Session

/-- After a run there is a live step under an id exactly if a remembered plan
    declares it. -/
theorem contains_run (symbol : String) (as : List Action) (stepId : String) :
    ((forSymbol symbol).run as).steps.contains stepId =
      (eventsSincePick as).any (Event.declares stepId) := by
  refine run_induction
    (motive := fun s es => (s.step? stepId).isSome = es.any (Event.declares stepId))
    (fun _ => rfl) ?_ ?_ symbol as
  · intro s es a hpick hevent h
    obtain ⟨_, _, _, hs⟩ := apply_frame hpick hevent s
    rw [hs]
    exact h
  · intro s es e h
    rw [step?_ingest, Option.isSome_or, Option.isSome_map, h, Event.isSome_seed?,
      List.any_append, Bool.or_comm]
    simp

/-- **The store's decision** is the one by history. -/
theorem dropped?_run (symbol : String) (as : List Action) (e : Event) :
    ((forSymbol symbol).run as).dropped? e =
      if e.isIgnoredAfter (eventsSincePick as) = true then some e.asDropped else none := by
  have hcontains := contains_run symbol as
  cases e with
  | unknown name _ => rfl
  | toolStart p | toolComplete p | toolError p =>
    simp only [dropped?, Event.stepId?, hcontains, Event.isIgnoredAfter, Event.isUnknown,
      Event.isOrphanAfter, Bool.false_or]
    cases (eventsSincePick as).any (Event.declares p.stepId) <;> rfl
  | status _ | message _ | planGenerated _ | stateChange _ | error _ | report _ | finished _ => rfl

/-- **The transition's decision**: an event that is ignored changes nothing. -/
theorem ingest_of_dropped? {s : Session} {e : Event} (h : (s.dropped? e).isSome) :
    (s.ingest e).1 = s := by
  -- an update under an id that is not there is no update
  have hkept : ∀ stepId f, s.steps.contains stepId = false → s.steps.update stepId f = s.steps := by
    intro stepId f hnot
    have hnone : s.steps.find? stepId = none := by simpa [Dictionary.contains] using hnot
    rw [Dictionary.update, hnone]
  cases e with
  | unknown _ _ => rfl
  | toolStart p | toolComplete p | toolError p =>
    have hnot : s.steps.contains p.stepId = false := by
      cases hc : s.steps.contains p.stepId with
      | false => rfl
      | true => simp [dropped?, Event.stepId?, hc] at h
    simp only [ingest, hkept _ _ hnot]
  | status _ | message _ | planGenerated _ | stateChange _ | error _ | report _ | finished _ =>
    cases h

theorem step?_ingest_of_stepId? {s : Session} {e : Event} {stepId : String} {x : LiveStep}
    (he : e.stepId? = some stepId) (hx : s.step? stepId = some x) :
    (s.ingest e).1.step? stepId = some (e.onStep x) := by
  -- a tool event is no plan, so nothing is seeded
  have hseed : e.seed? stepId = none := by
    cases e <;> first | rfl | cases he
  rw [step?_ingest, hseed, Option.none_or, hx, Option.map_some, Event.rewrite_of_stepId? he]

end Session

theorem Event.stepStatus?_eq_status {e : Event} {stepId : String} (he : e.stepId? = some stepId)
    (x : LiveStep) : e.stepStatus? = some (e.onStep x).status := by
  cases e <;> first | rfl | cases he

/-! ### The tally as a count -/

namespace DropTally

/-- The tally of the events that a session remembers. -/
def ofEvents (es : List Event) : DropTally where
  unknownEvents := (es.filter Event.isUnknown).length
  orphanedSteps := (filterByPast Event.isOrphanAfter es).length
  last := (filterByPast Event.isIgnoredAfter es).getLast?.map Event.asDropped

theorem ofEvents_concat (es : List Event) (e : Event) :
    ofEvents (es ++ [e]) =
      if e.isIgnoredAfter es = true then (ofEvents es).record e.asDropped else ofEvents es := by
  by_cases h : e.isIgnoredAfter es = true
  · have hstep := Event.isSome_stepId?_of_isIgnoredAfter h
    cases hunknown : e.isUnknown with
    | true =>
      -- an unknown event refers to no step, so it is not counted twice
      have horphan := Event.isOrphanAfter_of_isUnknown hunknown es
      simp [ofEvents, filterByPast_concat, record, Event.asDropped, h, hstep, hunknown, horphan]
    | false =>
      have horphan : e.isOrphanAfter es = true := by
        simpa [Event.isIgnoredAfter, hunknown] using h
      simp [ofEvents, filterByPast_concat, record, Event.asDropped, h, hstep, hunknown, horphan]
  · have hneither : e.isUnknown = false ∧ e.isOrphanAfter es = false := by
      simpa [Event.isIgnoredAfter] using h
    simp [ofEvents, filterByPast_concat, h, hneither]

theorem total_record (t : DropTally) (e : DroppedEvent) : (t.record e).total = t.total + 1 := by
  unfold record
  split <;> simp only [total] <;> omega

end DropTally

/-! ### Runs of the store -/

namespace Store

theorem run_concat (s : Store) (as : List Action) (a : Action) :
    s.run (as ++ [a]) = ((s.run as).dispatch a).store := by
  rw [run, List.foldl_append]
  rfl

theorem session_run (author : String) (as : List Action) :
    ((new author).run as).session = (Session.forSymbol "").run as := by
  induction as using List.reverseRecOn with
  | nil => rfl
  | append_singleton as a ih =>
    rw [run_concat, Session.run_concat, ← ih]
    rfl

theorem session_run_ingest (author : String) (as : List Action) (e : Event) :
    ((new author).run (as ++ [.ingest e])).session =
      (((Session.forSymbol "").run as).ingest e).1 := by
  rw [session_run, Session.run_concat]
  rfl

theorem version_run (author : String) (as : List Action) :
    ((new author).run as).version = as.length := by
  induction as using List.reverseRecOn with
  | nil => rfl
  | append_singleton as a ih =>
    rw [run_concat, List.length_append, ← ih]
    rfl

theorem dropped_run (author : String) (as : List Action) :
    ((new author).run as).dropped = .ofEvents (eventsSincePick as) := by
  induction as using List.reverseRecOn with
  | nil =>
    rw [eventsSincePick_nil]
    rfl
  | append_singleton as a ih =>
    rw [run_concat]
    show ((new author).run as).tallyAfter a = _
    cases a with
    | setSymbol symbol =>
      rw [eventsSincePick_of_pick]
      rfl
    | ingest e =>
      rw [eventsSincePick_of_not_pick as rfl]
      show _ = DropTally.ofEvents (eventsSincePick as ++ [e])
      rw [DropTally.ofEvents_concat, tallyAfter, session_run, Session.dropped?_run, ← ih]
      cases e.isIgnoredAfter (eventsSincePick as) <;> rfl
    | clearHistory | requestClearHistory | addMessage _ | setBusy _ | setStatus _
    | submitQuery _ _ _ | submissionFailed _ =>
      rw [eventsSincePick_of_not_pick as rfl]
      show _ = DropTally.ofEvents (eventsSincePick as ++ [])
      rw [List.append_nil, ← ih]
      rfl

theorem total_dropped_run_le (author : String) (as : List Action) :
    ((new author).run as).dropped.total ≤ as.length := by
  induction as using List.reverseRecOn with
  | nil => exact Nat.le_refl 0
  | append_singleton as a ih =>
    rw [run_concat, List.length_append, List.length_singleton]
    show (((new author).run as).tallyAfter a).total ≤ _
    unfold tallyAfter
    split
    · split
      · rw [DropTally.total_record]
        exact Nat.succ_le_succ ih
      · exact Nat.le_succ_of_le ih
    · exact Nat.zero_le _
    · exact Nat.le_succ_of_le ih

end Store

/-! ### Leaving out what is ignored -/

def Action.isIgnoredAfter (past : List Action) (a : Action) : Bool :=
  match a.event? with
  | some e => e.isIgnoredAfter (eventsSincePick past)
  | none => false

theorem Session.apply_of_isIgnoredAfter (symbol : String) (as : List Action) {a : Action}
    (h : a.isIgnoredAfter as = true) :
    (((forSymbol symbol).run as).apply a).session = (forSymbol symbol).run as := by
  cases a with
  | ingest e =>
    have hignored : e.isIgnoredAfter (eventsSincePick as) = true := h
    have hdropped : (((forSymbol symbol).run as).dropped? e).isSome := by
      rw [dropped?_run, if_pos hignored]
      rfl
    exact ingest_of_dropped? hdropped
  | setSymbol _ | clearHistory | requestClearHistory | addMessage _ | setBusy _ | setStatus _
  | submitQuery _ _ _ | submissionFailed _ => cases h

theorem Session.step?_ingest_of_not_ignored (symbol : String) (as : List Action) {e : Event}
    {stepId : String} (he : e.stepId? = some stepId)
    (h : e.isIgnoredAfter (eventsSincePick as) = false) :
    ∃ x, ((forSymbol symbol).run as).step? stepId = some x ∧
      (((forSymbol symbol).run as).ingest e).1.step? stepId = some (e.onStep x) := by
  have hdeclared : (eventsSincePick as).any (Event.declares stepId) = true := by
    simpa [Event.isOrphanAfter, he] using (Bool.or_eq_false_iff.1 h).2
  rw [← contains_run symbol] at hdeclared
  obtain ⟨x, hx⟩ := Option.isSome_iff_exists.1 hdeclared
  exact ⟨x, hx, step?_ingest_of_stepId? he hx⟩

/-- From any point of a run on, the ignored events make no difference. -/
theorem Session.run_filterByPast (symbol : String) (earlier later : List Action) :
    (forSymbol symbol).run
        (earlier ++ filterByPast (fun past a => !a.isIgnoredAfter (earlier ++ past)) later) =
      (forSymbol symbol).run (earlier ++ later) := by
  -- on the last action: what is ignored is judged by all actions before it, those left out too
  induction later using List.reverseRecOn with
  | nil => rfl
  | append_singleton later a ih =>
    rw [filterByPast_concat, ← List.append_assoc, ← List.append_assoc, run_concat]
    cases h : a.isIgnoredAfter (earlier ++ later) with
    | true =>
      rw [apply_of_isIgnoredAfter symbol (earlier ++ later) h, ← ih]
      simp
    | false =>
      rw [Bool.not_false, if_pos rfl, run_concat, ih]

/-- **What a store counts.**  After a run the version is the number of actions.
    The tally counts, since the symbol was picked last, the unknown events and
    the tool events for steps that no plan in between declares, and names the
    last of them.  Such an event leaves the session as it is, whenever it comes,
    and any other tool event is applied to its step; so from any point of the
    run on, the ignored events can be left out. -/
theorem tally_of_run (author : String) (as : List Action) :
    let s := (Store.new author).run as
    let es := eventsSincePick as
    s.version = as.length ∧ s.dropped.total ≤ as.length ∧
      s.dropped.unknownEvents = (es.filter Event.isUnknown).length ∧
      s.dropped.orphanedSteps = (filterByPast Event.isOrphanAfter es).length ∧
      s.dropped.last =
        (filterByPast Event.isIgnoredAfter es).getLast?.map (fun e => ⟨e.typeName, e.stepId?⟩) ∧
      (∀ earlier e later, as = earlier ++ .ingest e :: later →
        let before := ((Store.new author).run earlier).session
        let after := ((Store.new author).run (earlier ++ [.ingest e])).session
        (e.isIgnoredAfter (eventsSincePick earlier) = true → after = before) ∧
          ∀ stepId, e.stepId? = some stepId → e.isIgnoredAfter (eventsSincePick earlier) = false →
            ∃ x, before.step? stepId = some x ∧ after.step? stepId = some (e.onStep x) ∧
              e.stepStatus? = some (e.onStep x).status) ∧
      ∀ earlier later, as = earlier ++ later →
        ((Store.new author).run (earlier ++
          filterByPast (fun past a => !a.isIgnoredAfter (earlier ++ past)) later)).session =
            s.session := by
  have hdropped := Store.dropped_run author as
  refine ⟨Store.version_run author as, Store.total_dropped_run_le author as, ?_, ?_, ?_, ?_, ?_⟩
  · rw [hdropped]
    rfl
  · rw [hdropped]
    rfl
  · rw [hdropped]
    rfl
  · intro earlier e later _
    rw [Store.session_run_ingest, Store.session_run]
    refine ⟨Session.apply_of_isIgnoredAfter "" earlier (a := .ingest e), ?_⟩
    intro stepId he hkept
    obtain ⟨x, hbefore, hafter⟩ := Session.step?_ingest_of_not_ignored "" earlier he hkept
    exact ⟨x, hbefore, hafter, Event.stepStatus?_eq_status he x⟩
  · rintro earlier later rfl
    rw [Store.session_run, Store.session_run, Session.run_filterByPast]

end MeetingRoom
