/-
  MeetingRoom/Proofs/Feed/Interleaving.lean
  =========================================
  **However sending and receiving are interleaved, a turn ends in one way.**

  A task of its own forwards the stream of a meeting and puts the events on a
  channel; the host takes them off and applies them until the turn ends.  The
  channel keeps the order, loses nothing and is never closed, since the host
  itself could still send on it: the pump returns after a terminal event or not
  at all.

  Both sides are small machines here.  `Relay` is the forwarding, one frame at
  a time; what it still has to send is what `forward` gives for the frames that
  are left (`Relay.output_step`).  `Exchange.Step` is a step of either side.

  The invariant `Exchange.Valid` says that a step changes neither the events
  that are sent in all nor what pumping the rest would lead to.  As long as the
  pump has not returned, a terminal event is still to come.
-/
import Mathlib.Logic.Relation
import Mathlib.Order.WellFounded
import MeetingRoom.Proofs.Feed.Arrivals
import MeetingRoom.Proofs.Session.Ending

namespace MeetingRoom

open Text (trimBlank)

/-! ### The sending side -/

/-- The task that forwards a stream, between two frames. -/
inductive Relay where
  /-- `frames` are still to be read; `finished` says that a terminal event was sent. -/
  | reading (finished : Bool) (ending : StreamEnd) (frames : List Frame)
  /-- The connection broke, and that is still to be sent. -/
  | lost (why : Failure)
  | done

namespace Relay

/-- One step of the task, and the event that it sends. -/
def step? : Relay → Option (Relay × Option Event)
  | .reading finished ending [] =>
    match ending with
    | .exhausted => some (.done, (earlyEnd finished).head?)
    | .broken why => some (.lost (.socket why), none)
  | .reading finished _ (.close :: _) => some (.done, (earlyEnd finished).head?)
  | .reading finished ending (frame :: rest) =>
    match frame.read.event with
    | none => some (.reading finished ending rest, none)
    | some e => some (.reading (finished || e.isTerminal) ending rest, some e)
  | .lost why => some (.done, some (connectionLost why))
  | .done => none

def output : Relay → List Event
  | .reading finished ending frames => (forward none finished ending frames).settled
  | .lost why => [connectionLost why]
  | .done => []

-- two for each step that is left: itself, and the event that it may put on the channel
def weight : Relay → Nat
  | .reading _ _ frames => 2 * frames.length + 4
  | .lost _ => 2
  | .done => 0

theorem step?_cons {frame : Frame} (h : frame ≠ .close) (finished : Bool) (ending : StreamEnd)
    (rest : List Frame) :
    (reading finished ending (frame :: rest)).step? =
      match frame.read.event with
      | none => some (reading finished ending rest, none)
      | some e => some (reading (finished || e.isTerminal) ending rest, some e) := by
  cases frame with
  | close => exact absurd rfl h
  | text _ | binary _ | ping _ | pong _ => rfl

theorem toList_head?_earlyEnd (finished : Bool) :
    (earlyEnd finished).head?.toList = earlyEnd finished := by cases finished <;> rfl

/-- A step sends the first of what is to be sent, or nothing, and takes at least
    two off the weight. -/
theorem output_step {r r' : Relay} {out : Option Event} (h : r.step? = some (r', out)) :
    r.output = out.toList ++ r'.output ∧ r'.weight + 2 ≤ r.weight := by
  cases r with
  | done => cases h
  | lost why =>
    cases h
    exact ⟨rfl, Nat.le_refl 2⟩
  | reading finished ending frames =>
    cases frames with
    | nil =>
      cases ending with
      | exhausted =>
        cases h
        refine ⟨?_, by simp [weight]⟩
        rw [toList_head?_earlyEnd, output, output, settled_forward_exhausted, List.append_nil]
      | broken why =>
        cases h
        exact ⟨settled_forward_broken finished why, by simp [weight]⟩
    | cons frame rest =>
      by_cases hclose : frame = .close
      · subst hclose
        cases h
        refine ⟨?_, by simp [weight]⟩
        rw [toList_head?_earlyEnd, output, output, settled_forward_close, List.append_nil]
      · rw [step?_cons hclose] at h
        cases hread : frame.read.event with
        | none =>
          rw [hread] at h
          cases h
          refine ⟨settled_forward_silent hclose hread finished ending rest, ?_⟩
          simp only [weight, List.length_cons]
          omega
        | some e =>
          rw [hread] at h
          cases h
          refine ⟨settled_forward_event hclose hread finished ending rest, ?_⟩
          simp only [weight, List.length_cons]
          omega

theorem eq_done_of_step?_eq_none {r : Relay} (h : r.step? = none) : r = .done := by
  cases r with
  | done => rfl
  | lost why => cases h
  | reading finished ending frames =>
    cases frames with
    | nil => cases ending <;> cases h
    | cons frame rest =>
      by_cases hclose : frame = .close
      · subst hclose
        cases h
      · rw [step?_cons hclose] at h
        cases hread : frame.read.event with
        | none =>
          rw [hread] at h
          cases h
        | some e =>
          rw [hread] at h
          cases h

end Relay

/-! ### Both sides -/

/-- A turn under way: the task that sends, the channel, and the host that pumps. -/
structure Exchange where
  relay : Relay
  channel : List Event := []
  /-- All that was ever sent. -/
  sent : List Event := []
  store : Store
  pumping : Bool := true

namespace Exchange

/-- A step of one side: the relay goes on, or the pump receives an event,
    applies it and decides whether to return. -/
inductive Step : Exchange → Exchange → Prop where
  | relay {x : Exchange} {r : Relay} {out : Option Event} (h : x.relay.step? = some (r, out)) :
    Step x { x with
      relay := r, channel := x.channel ++ out.toList, sent := x.sent ++ out.toList }
  | receive {x : Exchange} {e : Event} {rest : List Event} (hpumping : x.pumping = true)
    (hchannel : x.channel = e :: rest) :
    Step x { x with
      channel := rest
      store := (x.store.ingest e).store
      pumping := !(e.isTerminal && !(x.store.ingest e).store.session.busy) }

abbrev Reaches : Exchange → Exchange → Prop := Relation.ReflTransGen Step

/-! ### Every schedule is finite -/

def weight (x : Exchange) : Nat := x.relay.weight + x.channel.length

theorem weight_step {x y : Exchange} (h : Step x y) : y.weight < x.weight := by
  cases h with
  | @relay r out hstep =>
    have hweight := (Relay.output_step hstep).2
    have hout : out.toList.length ≤ 1 := by cases out <;> simp
    simp only [weight, List.length_append]
    omega
  | receive hpumping hchannel => simp [weight, hchannel]

theorem no_infinite_schedule (run : Nat → Exchange) : ¬ ∀ n, Step (run n) (run (n + 1)) := by
  intro hrun
  have hbound : ∀ n, (run n).weight + n ≤ (run 0).weight := by
    intro n
    induction n with
    | zero => exact Nat.le_refl _
    | succ n ih =>
      have hstep := weight_step (hrun n)
      omega
  have htoo := hbound ((run 0).weight + 1)
  omega

/-! ### What every step keeps -/

/-- What holds at any moment of a turn that began with `start` and in which
    `arrivals` are sent. -/
structure Valid (start : Store) (arrivals : List Event) (x : Exchange) : Prop where
  /-- What was sent and what is still to be sent are all the events. -/
  conserved : x.sent ++ x.relay.output = arrivals
  /-- Before the pump returns, a terminal event is still to come. -/
  expected : x.pumping = true → ∃ e ∈ x.channel ++ x.relay.output, e.isTerminal = true
  /-- Before the pump returns, pumping the rest leads where pumping all did. -/
  pending : x.pumping = true →
    (x.store.pump (x.channel ++ x.relay.output)).store = (start.pump arrivals).store
  /-- When it has returned, that has come about. -/
  settled : x.pumping = false → x.store = (start.pump arrivals).store

theorem Valid.step {start : Store} {arrivals : List Event} {x y : Exchange}
    (h : Valid start arrivals x) (hstep : Step x y) : Valid start arrivals y := by
  cases hstep with
  | @relay r out hrelay =>
    have hout := (Relay.output_step hrelay).1
    -- the event only moves from what is to be sent into the channel
    have hrest : x.channel ++ out.toList ++ r.output = x.channel ++ x.relay.output := by
      rw [hout, List.append_assoc]
    constructor
    · show x.sent ++ out.toList ++ r.output = arrivals
      rw [List.append_assoc, ← hout]
      exact h.conserved
    · intro hpumping
      show ∃ e ∈ x.channel ++ out.toList ++ r.output, e.isTerminal = true
      rw [hrest]
      exact h.expected hpumping
    · intro hpumping
      show (x.store.pump (x.channel ++ out.toList ++ r.output)).store = _
      rw [hrest]
      exact h.pending hpumping
    · exact h.settled
  | @receive e rest hpumping hchannel =>
    have hpending := h.pending hpumping
    have hexpected := h.expected hpumping
    rw [hchannel, List.cons_append] at hpending hexpected
    rw [Store.store_pump_cons] at hpending
    constructor
    · exact h.conserved
    · intro hgoes
      -- the pump goes on, so the event was not the terminal one
      have hnot : e.isTerminal = false := by
        simpa [Store.stops_iff_terminal] using hgoes
      obtain ⟨t, ht, hterminal⟩ := hexpected
      rcases List.mem_cons.1 ht with rfl | ht
      · rw [hnot] at hterminal
        cases hterminal
      · exact ⟨t, ht, hterminal⟩
    · intro hgoes
      have hnot : e.isTerminal = false := by
        simpa [Store.stops_iff_terminal] using hgoes
      rw [if_neg (by simp [hnot])] at hpending
      exact hpending
    · intro hstops
      have hterminal : e.isTerminal = true := by
        simpa [Store.stops_iff_terminal] using hstops
      rw [if_pos hterminal] at hpending
      exact hpending

theorem Valid.reaches {start : Store} {arrivals : List Event} {x y : Exchange}
    (h : Valid start arrivals x) (hxy : Reaches x y) : Valid start arrivals y := by
  induction hxy with
  | refl => exact h
  | tail _ hstep ih => exact ih.step hstep

/-- When neither side can go on, everything was sent and the pump has returned. -/
theorem Valid.returned {start : Store} {arrivals : List Event} {x : Exchange}
    (h : Valid start arrivals x) (hstuck : ∀ y, ¬ Step x y) :
    x.sent = arrivals ∧ x.pumping = false := by
  have hdone : x.relay = .done := by
    refine Relay.eq_done_of_step?_eq_none (Option.eq_none_iff_forall_ne_some.2 ?_)
    rintro ⟨r, out⟩ hnext
    exact hstuck _ (.relay hnext)
  have houtput : x.relay.output = [] := by rw [hdone]; rfl
  refine ⟨by simpa [houtput] using h.conserved, ?_⟩
  cases hpumping : x.pumping with
  | false => rfl
  | true =>
    obtain ⟨e, he, _⟩ := h.expected hpumping
    rw [houtput, List.append_nil] at he
    obtain ⟨first, rest, hchannel⟩ := List.exists_cons_of_ne_nil (List.ne_nil_of_mem he)
    exact absurd (.receive hpumping hchannel) (hstuck _)

/-! ### The end of a turn -/

def opened (stream : Stream) (store : Store) : Exchange where
  relay := .reading false stream.ending stream.frames
  store := store

/-- In whatever order the two sides take their steps from `x` on, `arrivals` are
    sent, the pump returns, and it leaves `final`. -/
structure EndsWith (x : Exchange) (arrivals : List Event) (final : Store) : Prop where
  /-- No order of steps goes on for ever. -/
  finite : ∀ run : Nat → Exchange, run 0 = x → ¬ ∀ n, Step (run n) (run (n + 1))
  /-- When neither side can go on, everything was sent and the pump has returned. -/
  returned : ∀ y, Reaches x y → (∀ z, ¬ Step y z) → y.sent = arrivals ∧ y.pumping = false
  /-- What the pump leaves does not depend on the order. -/
  left : ∀ y, Reaches x y → y.pumping = false → y.store = final

theorem valid_opened (stream : Stream) (store : Store) :
    Valid store (forward none false stream.ending stream.frames).settled
      (opened stream store) where
  conserved := rfl
  expected := fun _ => exists_terminal_settled stream.ending stream.frames
  pending := fun _ => rfl
  settled := fun h => by cases h

theorem Valid.endsWith {start : Store} {arrivals : List Event} {x : Exchange}
    (h : Valid start arrivals x) : EndsWith x arrivals (start.pump arrivals).store where
  finite := fun run _ => no_infinite_schedule run
  returned := fun _ hy hstuck => (h.reaches hy).returned hstuck
  left := fun _ hy => (h.reaches hy).settled

end Exchange

/-- **A turn ends.**  A question is accepted and its meeting started.  Among the
    events that the stream brings is a terminal one; let `last` be the first.
    However sending and receiving are interleaved, the pump returns, and what it
    leaves is the store with the events up to `last` applied, which is idle. -/
theorem turn_ends {b : Backend} {net : Network} {s : Store} {query : String} {stream : Stream}
    (haccepts : s.session.accepts query = true)
    (hstart : b.start net s.session.symbol (trimBlank query) = .ok stream) (timestamp : String) :
    let turn := s.submit (b.server net) query timestamp
    turn.result = .ok () ∧ turn.store.session.busy = true ∧
      ∃ before last after,
        b.arrivals net turn.calls = before ++ last :: after ∧
          (∀ e ∈ before, e.isTerminal = false) ∧ last.isTerminal = true ∧
          (Exchange.opened stream turn.store).EndsWith (b.arrivals net turn.calls)
            (turn.store.ingestAll (before ++ [last])) ∧
          (turn.store.ingestAll (before ++ [last])).session.busy = false := by
  intro turn
  have hserver : b.server net (.startSession s.session.symbol (trimBlank query)) = .ok () := by
    rw [Backend.server, hstart]
    rfl
  have hturn : s.submit (b.server net) query timestamp = turn := rfl
  obtain ⟨hresult, hcalls, hbusy⟩ := Store.submit_of_accepts haccepts hserver timestamp
  rw [hturn] at hresult hcalls hbusy
  have harrivals : b.arrivals net turn.calls =
      (forward none false stream.ending stream.frames).settled := by
    rw [hcalls, arrivals_of_start hstart]
  refine ⟨hresult, hbusy, ?_⟩
  obtain ⟨before, last, after, hsplit, hbefore, hlast⟩ :=
    exists_first_terminal (exists_terminal_settled stream.ending stream.frames)
  refine ⟨before, last, after, harrivals.trans hsplit, hbefore, hlast, ?_, ?_⟩
  · rw [harrivals, ← Store.store_pump_of_terminal turn.store after hbefore hlast, ← hsplit]
    exact (Exchange.valid_opened stream turn.store).endsWith
  · rw [Store.ingestAll_concat]
    exact Store.busy_ingest_of_terminal _ hlast

theorem turn_ends_finishedThenBroken :
    let net : Network := .replaying finishedThenBroken
    let s := (Store.new.switchSymbol "US:AAPL").store
    let turn := s.submit (loopback.server net) " hi " ""
    s.session.accepts " hi " = true ∧
      loopback.start net s.session.symbol (trimBlank " hi ") = .ok finishedThenBroken ∧
      ∃ final : Store,
        (Exchange.opened finishedThenBroken turn.store).EndsWith
          (loopback.arrivals net turn.calls) final ∧
          final.session.busy = false := by
  intro net s turn
  have haccepts : s.session.accepts " hi " = true := by decide +kernel
  have htrim : trimBlank " hi " = "hi" := by decide +kernel
  have hstart : loopback.start net s.session.symbol (trimBlank " hi ") =
      .ok finishedThenBroken := by
    rw [htrim]
    exact start_finishedThenBroken
  obtain ⟨-, -, before, last, after, -, -, -, hends, hidle⟩ := turn_ends haccepts hstart ""
  exact ⟨haccepts, hstart, turn.store.ingestAll (before ++ [last]), hends, hidle⟩

end MeetingRoom
