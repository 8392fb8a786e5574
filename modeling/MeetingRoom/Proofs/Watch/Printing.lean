/-
  MeetingRoom/Proofs/Watch/Printing.lean
  ======================================
  **What is printed of a meeting, and when.**

  The printer remembers only how many messages it has shown.  After each event
  it shows the transcript from there on, so each message is shown once because
  ingesting an event at most adds to the transcript
  (`Store.transcript_prefix_ingest`).

  The line of a tool event is looked up after the event, while the store decides
  before it whether the event is ignored.  Both ask for the live step under one
  id, and a tool event changes no id's presence (`eventLines_of_stepId?`).
-/
import MeetingRoom.Proofs.Session.Pumping
import MeetingRoom.Proofs.Session.Streams
import MeetingRoom.Proofs.Session.Transcript
import MeetingRoom.Watch.Run

namespace MeetingRoom

/-! ### The transcript only grows -/

namespace Store

theorem transcript_prefix_ingest (s : Store) (e : Event) :
    s.session.transcript <+: (s.ingest e).store.session.transcript := by
  rw [session_ingest, Session.transcript_ingest]
  exact List.prefix_append _ _

theorem transcript_prefix_ingestAll (s : Store) (es : List Event) :
    s.session.transcript <+: (s.ingestAll es).session.transcript := by
  induction es generalizing s with
  | nil => exact List.prefix_rfl
  | cons e rest ih => exact (s.transcript_prefix_ingest e).trans (ih (s.ingest e).store)

/-- The store has counted one more ignored event. -/
def CountedIn (before after : Store) : Prop := after.dropped.total = before.dropped.total + 1

theorem total_ingest (s : Store) (e : Event) :
    (s.ingest e).store.dropped.total =
      s.dropped.total + if e.isUnknown = true ∨ s.session.isOrphan e = true then 1 else 0 := by
  rw [dropped_ingest]
  split
  · exact DropTally.total_record _ _
  · rfl

theorem countedIn_ingest_iff (s : Store) (e : Event) :
    s.CountedIn (s.ingest e).store ↔ e.isUnknown = true ∨ s.session.isOrphan e = true := by
  rw [CountedIn, total_ingest]
  split <;> simp_all

end Store

/-! ### Observed events -/

theorem IsTurnOf.ne_nil {applied queue : List Event} (h : IsTurnOf applied queue)
    (hqueue : queue ≠ []) : applied ≠ [] := by
  rcases h with ⟨⟨last, hlast, -⟩, -⟩ | ⟨rfl, -⟩
  · rintro rfl
    cases hlast
  · exact hqueue

theorem Store.split_observations {s after : Store} {e : Event} {es : List Event}
    {earlier later : List (Event × Store)}
    (h : s.observations es = earlier ++ (e, after) :: later) :
    earlier = s.observations (earlier.map Prod.fst) ∧
      after = ((s.ingestAll (earlier.map Prod.fst)).ingest e).store := by
  induction es generalizing s earlier with
  | nil => simp [observations] at h
  | cons e' rest ih =>
    rw [observations] at h
    cases earlier with
    | nil =>
      obtain ⟨hhead, -⟩ := List.cons.inj h
      obtain ⟨rfl, rfl⟩ := Prod.mk.inj hhead
      exact ⟨rfl, rfl⟩
    | cons o earlier =>
      obtain ⟨rfl, hrest⟩ := List.cons.inj h
      obtain ⟨hearlier, hafter⟩ := ih hrest
      refine ⟨?_, hafter⟩
      rw [List.map_cons, observations, ← hearlier]

namespace Watch

/-! ### Lines of the transcript -/

def Line.isMessage : Line → Bool
  | .message _ _ => true
  | _ => false

/-- A message is shown by the name of its author and its content. -/
theorem text_ofMessage (m : Message) :
    (Line.ofMessage m).text = "\n[" ++ m.agentName ++ "] " ++ m.content := rfl

theorem filter_newMessages (printed : Nat) (s : Session) :
    (newMessages printed s).filter Line.isMessage = newMessages printed s := by
  rw [List.filter_eq_self]
  intro line hline
  obtain ⟨m, -, rfl⟩ := List.mem_map.1 hline
  rfl

theorem filter_eventLines (e : Event) (s : Session) :
    (eventLines e s).filter Line.isMessage = [] := by
  rw [List.filter_eq_nil_iff]
  intro line hline
  cases e with
  | planGenerated p =>
    have hkind : line = .plan p.id p.objective ∨ (∃ name, line = .requester name) ∨
        ∃ x, line = .step x := by
      simp only [eventLines, List.mem_append, List.mem_cons, List.mem_map, Option.mem_toList,
        Option.map_eq_some_iff] at hline
      rcases hline with (h | ⟨name, -, h⟩) | ⟨x, -, h⟩
      · exact .inl h
      · exact .inr (.inl ⟨name, h.symm⟩)
      · exact .inr (.inr ⟨x, h.symm⟩)
    rcases hkind with rfl | ⟨_, rfl⟩ | ⟨_, rfl⟩ <;> simp [Line.isMessage]
  | toolStart p | toolComplete p | toolError p =>
    simp only [eventLines, Option.mem_toList, Option.map_eq_some_iff] at hline
    obtain ⟨x, -, rfl⟩ := hline
    simp [Line.isMessage]
  | status _ | error _ | finished _ | report _ =>
    obtain rfl := List.mem_singleton.1 hline
    simp [Line.isMessage]
  | message _ | stateChange _ | unknown _ _ => cases hline

theorem newMessages_zero (s : Session) : newMessages 0 s = s.transcript.map Line.ofMessage := rfl

/-- What was shown of a shorter transcript, and then the rest of a longer one. -/
theorem newMessages_append {printed : Nat} {s t : Session} (hgrows : s.transcript <+: t.transcript)
    (hprinted : printed ≤ s.transcript.length) :
    newMessages printed s ++ newMessages s.transcript.length t = newMessages printed t := by
  obtain ⟨added, hadded⟩ := hgrows
  rw [newMessages, newMessages, newMessages, ← hadded, ← List.map_append, List.drop_left,
    List.drop_append_of_le_length hprinted]

/-- How many messages were shown once some events were handled. -/
def shownAfter (printed : Nat) (earlier : List (Event × Store)) : Nat :=
  match earlier.getLast? with
  | some o => o.2.session.transcript.length
  | none => printed

theorem shownAfter_cons (printed : Nat) (o : Event × Store) (rest : List (Event × Store)) :
    shownAfter printed (o :: rest) = shownAfter o.2.session.transcript.length rest := by
  rw [shownAfter, shownAfter, List.getLast?_cons]
  cases rest.getLast? <;> rfl

theorem screen_append (printed : Nat) (earlier later : List (Event × Store)) :
    screen printed (earlier ++ later) =
      screen printed earlier ++ screen (shownAfter printed earlier) later := by
  induction earlier generalizing printed with
  | nil => rfl
  | cons o rest ih =>
    rw [List.cons_append, screen, ih, screen, shownAfter_cons]
    simp only [List.append_assoc]

/-- Each message that was not shown before is shown, in order, once. -/
theorem filter_screen {printed : Nat} {s : Store} (h : printed ≤ s.session.transcript.length)
    (e : Event) (rest : List Event) :
    (screen printed (s.observations (e :: rest))).filter Line.isMessage =
      newMessages printed (s.ingestAll (e :: rest)).session := by
  have hle : printed ≤ (s.ingest e).store.session.transcript.length :=
    Nat.le_trans h (s.transcript_prefix_ingest e).length_le
  rw [Store.observations, screen, List.filter_append, List.filter_append, filter_newMessages,
    filter_eventLines, List.append_nil]
  induction rest generalizing printed s e with
  | nil =>
    rw [Store.observations, screen, List.filter_nil, List.append_nil]
    rfl
  | cons next rest ih =>
    have hnext := (s.ingest e).store.transcript_prefix_ingest next
    have hgrows := (s.ingest e).store.transcript_prefix_ingestAll (next :: rest)
    rw [Store.observations, screen, List.filter_append, List.filter_append, filter_newMessages,
      filter_eventLines, List.append_nil, ih (Nat.le_refl _) next hnext.length_le,
      s.ingestAll_cons]
    exact newMessages_append hgrows hle

/-! ### Lines of tool events -/

/-- The mark that goes with a tool event. -/
def toolMark? : Event → Option String
  | .toolStart _ => some "[~]"
  | .toolComplete _ => some "[x]"
  | .toolError _ => some "[!]"
  | _ => none

theorem toolMark?_eq {e : Event} {stepId : String} (he : e.stepId? = some stepId) (x : LiveStep) :
    toolMark? e = some (marker (e.onStep x).status) := by
  cases e <;> first | rfl | cases he

theorem eventLines_eq {e : Event} {stepId : String} (he : e.stepId? = some stepId) (s : Session) :
    eventLines e s = ((s.step? stepId).map Line.step).toList := by
  cases e <;> cases he <;> rfl

/-- A tool event shows its step as it is after the event, if the step is live. -/
theorem eventLines_of_stepId? {e : Event} {stepId : String} (he : e.stepId? = some stepId)
    (s : Session) :
    s.isOrphan e = true ∧ eventLines e (s.ingest e).1 = [] ∨
      s.isOrphan e = false ∧ ∃ x, eventLines e (s.ingest e).1 = [.step x] ∧
        (s.ingest e).1.step? stepId = some x ∧ toolMark? e = some (marker x.status) := by
  have horphan : s.isOrphan e = (s.step? stepId).isNone := by simp only [Session.isOrphan, he]
  rw [horphan, eventLines_eq he]
  cases hx : s.step? stepId with
  | none =>
    have hdropped : (s.dropped? e).isSome := by
      rw [Session.dropped?_eq, if_pos (.inr (by rw [horphan, hx]; rfl))]
      rfl
    rw [Session.ingest_of_dropped? hdropped, hx]
    exact .inl ⟨rfl, rfl⟩
  | some x =>
    have hafter := Session.step?_ingest_of_stepId? he hx
    rw [hafter]
    exact .inr ⟨rfl, e.onStep x, rfl, rfl, toolMark?_eq he x⟩

theorem eventLines_of_isUnknown {e : Event} (h : e.isUnknown = true) (s : Session) :
    eventLines e s = [] := by
  cases e <;> first | rfl | cases h

theorem text_step (x : LiveStep) :
    ∃ details, (Line.step x).text =
      "   " ++ marker x.status ++ " " ++ x.spec.stepId ++ " (" ++ x.spec.toolName ++ ")" ++
        details := by
  have htext : (Line.step x).text = "   " ++ describeStep x := rfl
  rw [htext, describeStep]
  simp only [String.append_assoc]
  exact ⟨_, rfl⟩

/-- What a tool event shows goes with what the store counts of it. -/
theorem exists_eventLines_iff {e : Event} {stepId : String} (he : e.stepId? = some stepId)
    (s : Store) :
    (∃ x, eventLines e (s.ingest e).store.session = [.step x]) ↔
      ¬ s.CountedIn (s.ingest e).store := by
  have hknown : e.isUnknown = false := by
    cases e <;> first | rfl | cases he
  rw [s.countedIn_ingest_iff, Store.session_ingest, hknown]
  rcases eventLines_of_stepId? he s.session with ⟨horphan, hown⟩ | ⟨hlive, x, hown, -⟩
  · rw [hown, horphan]
    refine iff_of_false ?_ (by simp)
    rintro ⟨x, hx⟩
    cases hx
  · rw [hown, hlive]
    exact iff_of_true ⟨x, rfl⟩ (by simp)

theorem step_of_eventLines {e : Event} {stepId : String} (he : e.stepId? = some stepId)
    {s : Session} {x : LiveStep} (hx : eventLines e (s.ingest e).1 = [.step x]) :
    (s.ingest e).1.step? stepId = some x ∧ toolMark? e = some (marker x.status) := by
  rcases eventLines_of_stepId? he s with ⟨-, hown⟩ | ⟨-, y, hown, hstep, hmark⟩
  · rw [hown] at hx
    cases hx
  · rw [hown] at hx
    cases hx
    exact ⟨hstep, hmark⟩

theorem eventLines_of_countedIn {s : Store} {e : Event} (h : s.CountedIn (s.ingest e).store) :
    eventLines e (s.ingest e).store.session = [] := by
  rcases (s.countedIn_ingest_iff e).1 h with hunknown | horphan
  · exact eventLines_of_isUnknown hunknown _
  · cases he : e.stepId? with
    | none =>
      rw [Session.isOrphan_of_stepId?_eq_none he] at horphan
      cases horphan
    | some stepId =>
      rcases eventLines_of_stepId? he s.session with ⟨-, hown⟩ | ⟨hlive, -⟩
      · exact hown
      · rw [horphan] at hlive
        cases hlive

/-- What an event shows of its own, by the stores before and after it. -/
structure OwnLines (before : Store) (e : Event) (after : Store) : Prop where
  no_message : ∀ line ∈ eventLines e after.session, line.isMessage = false
  /-- A tool event shows its step as it is afterwards, unless it is ignored. -/
  of_tool : ∀ stepId, e.stepId? = some stepId →
    ((∃ x, eventLines e after.session = [.step x]) ↔ ¬ before.CountedIn after) ∧
      ∀ x, eventLines e after.session = [.step x] →
        after.session.step? stepId = some x ∧
          ∃ mark details, toolMark? e = some mark ∧
            (Line.step x).text =
              "   " ++ mark ++ " " ++ x.spec.stepId ++ " (" ++ x.spec.toolName ++ ")" ++ details
  silent : before.CountedIn after ∨ e.isUnknown = true ∨ (∃ p, e = .stateChange p) →
    eventLines e after.session = []

theorem ownLines_ingest (s : Store) (e : Event) : OwnLines s e (s.ingest e).store := by
  constructor
  · intro line hline
    have hnone := List.filter_eq_nil_iff.1 (filter_eventLines e (s.ingest e).store.session)
    exact Bool.eq_false_iff.2 (hnone line hline)
  · intro stepId he
    refine ⟨exists_eventLines_iff he s, ?_⟩
    intro x hx
    obtain ⟨hstep, hmark⟩ := step_of_eventLines he hx
    obtain ⟨details, htext⟩ := text_step x
    exact ⟨hstep, marker x.status, details, hmark, htext⟩
  · rintro (hcounted | hunknown | ⟨p, rfl⟩)
    · exact eventLines_of_countedIn hcounted
    · exact eventLines_of_isUnknown hunknown _
    · rfl

/-- **Each message and each step of a meeting is shown once.**  Over the events
    that are applied, the lines of messages are those of the final transcript, each
    with the message's author and content, and up to any of these events they are
    those of the transcript just after it.  All other lines are the events' own
    (`OwnLines`): one for a tool event, with its mark and the step as it is after the
    event, unless the event is counted as ignored; and none for a counted or unknown
    event, or a change of the activity. -/
theorem meeting_shown_once (o : Opening) (first : Event) (rest : List Event) :
    let pumped := o.store.pump (first :: rest)
    let lines := (o.watch (first :: rest)).lines
    lines.filter Line.isMessage = pumped.store.session.transcript.map Line.ofMessage ∧
      (∀ m : Message,
        (Line.ofMessage m).text = "\n[" ++ m.agentName ++ "] " ++ m.content) ∧
      ∀ earlier e after later, pumped.observed = earlier ++ (e, after) :: later →
        let before := o.store.ingestAll (earlier.map Prod.fst)
        after = (before.ingest e).store ∧
          screen 0 (earlier ++ [(e, after)]) <+: lines ∧
          (screen 0 (earlier ++ [(e, after)])).filter Line.isMessage =
            after.session.transcript.map Line.ofMessage ∧
          (∃ messages, screen 0 (earlier ++ [(e, after)]) =
              screen 0 earlier ++ messages ++ eventLines e after.session ∧
            ∀ line ∈ messages, line.isMessage = true) ∧
          OwnLines before e after := by
  intro pumped lines
  obtain ⟨applied, left, -, hturn, hstore, -, hobserved⟩ := o.store.exists_turn (first :: rest)
  have hlines : lines = screen 0 pumped.observed := rfl
  have hshown : ∀ es : List Event, es ≠ [] →
      (screen 0 (o.store.observations es)).filter Line.isMessage =
        (o.store.ingestAll es).session.transcript.map Line.ofMessage := by
    intro es hes
    obtain ⟨e, es, rfl⟩ := List.exists_cons_of_ne_nil hes
    rw [filter_screen (Nat.zero_le _), newMessages_zero]
  refine ⟨?_, text_ofMessage, ?_⟩
  · have happlied : applied ≠ [] := hturn.ne_nil (List.cons_ne_nil _ _)
    rw [hlines, hobserved, hstore]
    exact hshown applied happlied
  · intro earlier e after later hsplit before
    have hprefix : screen 0 (earlier ++ [(e, after)]) <+: lines := by
      have hwhole : pumped.observed = (earlier ++ [(e, after)]) ++ later := by
        rw [hsplit, List.append_assoc]
        rfl
      rw [hlines, hwhole, screen_append 0 (earlier ++ [(e, after)])]
      exact List.prefix_append _ _
    rw [hobserved] at hsplit
    obtain ⟨hearlier, hafter⟩ := Store.split_observations hsplit
    have hupto : earlier ++ [(e, after)] =
        o.store.observations (earlier.map Prod.fst ++ [e]) := by
      rw [Store.observations_concat, ← hearlier, hafter]
    have hown : OwnLines before e after := by
      rw [hafter]
      exact ownLines_ingest before e
    refine ⟨hafter, hprefix, ?_, ?_, hown⟩
    · rw [hupto, hshown _ (by simp), Store.ingestAll_concat, hafter]
    · refine ⟨newMessages (shownAfter 0 earlier) after.session, ?_, ?_⟩
      · rw [screen_append]
        simp only [screen, List.append_nil, List.append_assoc]
      · intro line hline
        rw [← filter_newMessages] at hline
        exact (List.mem_filter.1 hline).2

end Watch

end MeetingRoom
