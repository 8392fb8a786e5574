/-
  MeetingRoom/Proofs/Feed/Arrivals.lean
  =====================================
  **What a stream puts before its receiver.**

  The events of the frames up to the first close frame are passed on, and after
  them comes at most one event that no frame carried: that the connection was
  closed, if it ended before any terminal event, or that it was lost, if it
  broke.  `settled_forward` is the whole description.

  A stream that ends in order is only reported if the meeting had not ended.
  A broken one is reported in either case, so an error can follow the event
  that ended the meeting (`lost_after_finished`).
-/
import Mathlib.Data.List.Basic
import MeetingRoom.Server.Client

namespace MeetingRoom

/-! ### The frames that are read -/

def decodedEvents (frames : List Frame) : List Event :=
  (frames.takeWhile (· ≠ .close)).filterMap fun frame => frame.read.event

/-- The stream breaks: it ends so, and no close frame came before. -/
def Stream.Breaks (stream : Stream) (why : SocketProblem) : Prop :=
  stream.ending = .broken why ∧ .close ∉ stream.frames

theorem decodedEvents_close (rest : List Frame) : decodedEvents (.close :: rest) = [] := rfl

theorem decodedEvents_cons {frame : Frame} (h : frame ≠ .close) (rest : List Frame) :
    decodedEvents (frame :: rest) = frame.read.event.toList ++ decodedEvents rest := by
  rw [decodedEvents, List.takeWhile_cons_of_pos (by simpa using h), List.filterMap_cons]
  cases frame.read.event <;> rfl

/-! ### One frame of a stream -/

def earlyEnd (finished : Bool) : List Event := if finished then [] else [connectionClosed]

theorem settled_endOfStream (finished : Bool) :
    (endOfStream none finished).settled = earlyEnd finished := by
  cases finished <;> rfl

theorem settled_withEvent (e : Event) (d : Delivery) :
    (d.withEvent e).settled = e :: d.settled := by
  unfold Delivery.settled Delivery.withEvent
  cases d.result <;> rfl

theorem settled_withNotices (ns : List Notice) (d : Delivery) :
    (d.withNotices ns).settled = d.settled := rfl

theorem settled_forward_exhausted (finished : Bool) :
    (forward none finished .exhausted []).settled = earlyEnd finished :=
  settled_endOfStream finished

theorem settled_forward_broken (finished : Bool) (why : SocketProblem) :
    (forward none finished (.broken why) []).settled = [connectionLost (.socket why)] := rfl

theorem settled_forward_close (finished : Bool) (ending : StreamEnd) (rest : List Frame) :
    (forward none finished ending (.close :: rest)).settled = earlyEnd finished :=
  settled_endOfStream finished

theorem forward_of_silent {frame : Frame} (h : frame ≠ .close) (hread : frame.read.event = none)
    (finished : Bool) (ending : StreamEnd) (rest : List Frame) :
    forward none finished ending (frame :: rest) =
      (forward none finished ending rest).withNotices frame.read.notices := by
  rw [forward]
  · simp only [hread]
  · exact h

theorem forward_of_event {frame : Frame} {e : Event} (h : frame ≠ .close)
    (hread : frame.read.event = some e) (finished : Bool) (ending : StreamEnd)
    (rest : List Frame) :
    forward none finished ending (frame :: rest) =
      (forward none (finished || e.isTerminal) ending rest).withEvent e := by
  rw [forward]
  · simp only [hread, Receiving, ne_eq, reduceCtorEq, not_false_eq_true, if_true]
    rfl
  · exact h

theorem settled_forward_silent {frame : Frame} (h : frame ≠ .close)
    (hread : frame.read.event = none) (finished : Bool) (ending : StreamEnd) (rest : List Frame) :
    (forward none finished ending (frame :: rest)).settled =
      (forward none finished ending rest).settled := by
  rw [forward_of_silent h hread]
  exact settled_withNotices _ _

theorem settled_forward_event {frame : Frame} {e : Event} (h : frame ≠ .close)
    (hread : frame.read.event = some e) (finished : Bool) (ending : StreamEnd)
    (rest : List Frame) :
    (forward none finished ending (frame :: rest)).settled =
      e :: (forward none (finished || e.isTerminal) ending rest).settled := by
  rw [forward_of_event h hread]
  exact settled_withEvent _ _

/-! ### The whole stream -/

/-- What follows the events of the frames; `finished` says that one of the events
    was terminal. -/
def closingEvents (finished : Bool) (ending : StreamEnd) (frames : List Frame) : List Event :=
  match ending with
  | .exhausted => earlyEnd finished
  | .broken why =>
    if .close ∈ frames then earlyEnd finished else [connectionLost (.socket why)]

theorem closingEvents_close (finished : Bool) (ending : StreamEnd) (rest : List Frame) :
    closingEvents finished ending (.close :: rest) = earlyEnd finished := by
  cases ending with
  | exhausted => rfl
  | broken why => simp [closingEvents]

theorem closingEvents_cons {frame : Frame} (h : frame ≠ .close) (finished : Bool)
    (ending : StreamEnd) (rest : List Frame) :
    closingEvents finished ending (frame :: rest) = closingEvents finished ending rest := by
  cases ending with
  | exhausted => rfl
  | broken why => simp [closingEvents, h.symm]

theorem settled_forward (finished : Bool) (ending : StreamEnd) (frames : List Frame) :
    (forward none finished ending frames).settled =
      decodedEvents frames ++
        closingEvents (finished || (decodedEvents frames).any Event.isTerminal) ending frames := by
  induction frames generalizing finished with
  | nil =>
    cases ending with
    | exhausted => simp [settled_forward_exhausted, decodedEvents, closingEvents]
    | broken why => simp [settled_forward_broken, decodedEvents, closingEvents]
  | cons frame rest ih =>
    by_cases hclose : frame = .close
    · subst hclose
      rw [settled_forward_close, decodedEvents_close, closingEvents_close]
      simp
    · rw [decodedEvents_cons hclose, closingEvents_cons hclose]
      cases hread : frame.read.event with
      | none => rw [settled_forward_silent hclose hread, ih, Option.toList_none, List.nil_append]
      | some e =>
        -- the event counts for the end of the rest, whether it was terminal or not
        rw [settled_forward_event hclose hread, ih, Option.toList_some, List.singleton_append,
          List.cons_append, List.any_cons, Bool.or_assoc]

/-! ### The event that no frame carried -/

theorem length_closingEvents_le (finished : Bool) (ending : StreamEnd) (frames : List Frame) :
    (closingEvents finished ending frames).length ≤ 1 := by
  have hearly : (earlyEnd finished).length ≤ 1 := by cases finished <;> simp [earlyEnd]
  cases ending with
  | exhausted => exact hearly
  | broken why =>
    by_cases hclose : .close ∈ frames
    · simpa [closingEvents, hclose] using hearly
    · simp [closingEvents, hclose]

theorem closingEvents_of_breaks {stream : Stream} {why : SocketProblem} (h : stream.Breaks why)
    (finished : Bool) :
    closingEvents finished stream.ending stream.frames = [connectionLost (.socket why)] := by
  rw [h.1]
  exact if_neg h.2

theorem closingEvents_of_not_breaks {stream : Stream} (h : ¬ ∃ why, stream.Breaks why)
    (finished : Bool) :
    closingEvents finished stream.ending stream.frames = earlyEnd finished := by
  cases hending : stream.ending with
  | exhausted => rfl
  | broken why =>
    refine if_pos ?_
    exact Classical.byContradiction fun hclose => h ⟨why, hending, hclose⟩

/-- Whatever a stream brings, a terminal event is among it. -/
theorem exists_terminal_settled (ending : StreamEnd) (frames : List Frame) :
    ∃ e ∈ (forward none false ending frames).settled, e.isTerminal = true := by
  rw [settled_forward, Bool.false_or]
  cases hfinished : (decodedEvents frames).any Event.isTerminal with
  | true =>
    obtain ⟨e, he, hterminal⟩ := List.any_eq_true.1 hfinished
    exact ⟨e, List.mem_append_left _ he, hterminal⟩
  | false =>
    -- no frame carried one, so the end of the stream is reported, and as an error
    cases ending with
    | exhausted => exact ⟨connectionClosed, by simp [closingEvents, earlyEnd], rfl⟩
    | broken why =>
      by_cases hclose : .close ∈ frames
      · exact ⟨connectionClosed, by simp [closingEvents, hclose, earlyEnd], rfl⟩
      · exact ⟨connectionLost (.socket why), by simp [closingEvents, hclose], rfl⟩

theorem arrivals_of_start {b : Backend} {net : Network} {symbol query : String} {stream : Stream}
    (h : b.start net symbol query = .ok stream) :
    b.arrivals net [.startSession symbol query] =
      (forward none false stream.ending stream.frames).settled := by
  have hdelivery : b.delivery? net (.startSession symbol query) =
      some (forward none false stream.ending stream.frames) := by
    -- only the definition is opened: its equations would evaluate the address
    delta Backend.delivery?
    dsimp only
    rw [h]
  simp [Backend.arrivals, Backend.deliveries, hdelivery]

/-- **The event that no frame carried.**  After the events of the frames a
    started meeting brings at most one more.  There is one if and only if none of
    the events before it is terminal or the stream breaks: of a stream that
    breaks it says that the connection was lost, and otherwise that it was
    closed. -/
theorem arrivals_after_frames {b : Backend} {net : Network} {symbol query : String}
    {stream : Stream} (h : b.start net symbol query = .ok stream) :
    ∃ last : List Event,
      b.arrivals net [.startSession symbol query] = decodedEvents stream.frames ++ last ∧
        last.length ≤ 1 ∧
        (last ≠ [] ↔ (∀ e ∈ decodedEvents stream.frames, e.isTerminal = false) ∨
          ∃ why, stream.Breaks why) ∧
        (∀ why, stream.Breaks why → last = [connectionLost (.socket why)]) ∧
        ((¬ ∃ why, stream.Breaks why) → ∀ e ∈ last, e = connectionClosed) := by
  let finished := (decodedEvents stream.frames).any Event.isTerminal
  have hfinished : finished = false ↔
      ∀ e ∈ decodedEvents stream.frames, e.isTerminal = false := by simp [finished]
  refine ⟨closingEvents finished stream.ending stream.frames, ?_, length_closingEvents_le ..,
    ?_, ?_, ?_⟩
  · rw [arrivals_of_start h, settled_forward, Bool.false_or]
  · rw [← hfinished]
    by_cases hbreaks : ∃ why, stream.Breaks why
    · obtain ⟨why, hwhy⟩ := hbreaks
      rw [closingEvents_of_breaks hwhy]
      exact ⟨fun _ => .inr ⟨why, hwhy⟩, fun _ => List.cons_ne_nil _ _⟩
    · rw [closingEvents_of_not_breaks hbreaks]
      cases finished <;> simp [earlyEnd, hbreaks]
  · intro why hwhy
    exact closingEvents_of_breaks hwhy finished
  · intro hbreaks e he
    rw [closingEvents_of_not_breaks hbreaks] at he
    cases hfin : finished with
    | true =>
      rw [hfin] at he
      cases he
    | false =>
      rw [hfin] at he
      exact List.mem_singleton.1 he

/-! ### A stream that breaks after the end of the meeting -/

deriving instance DecidableEq for Stream

def loopback : Backend := { wsBase := "ws://[::1]", rest := .new "http://[::1]" }

def finishedThenBroken : Stream where
  frames := [.text "\x7b\"event_type\":\"finished\"\x7d"]
  ending := .broken .brokenOff

theorem start_finishedThenBroken :
    loopback.start (.replaying finishedThenBroken) "US:AAPL" "hi" = .ok finishedThenBroken := by
  decide +kernel

theorem terminal_finishedThenBroken :
    ∃ e ∈ decodedEvents finishedThenBroken.frames, e.isTerminal = true := by
  have h : (decodedEvents finishedThenBroken.frames).any Event.isTerminal = true := by
    decide +kernel
  exact List.any_eq_true.1 h

theorem breaks_finishedThenBroken : finishedThenBroken.Breaks .brokenOff := ⟨rfl, by decide⟩

/-- The loss is reported although the meeting is finished. -/
theorem arrivals_finishedThenBroken :
    loopback.start (.replaying finishedThenBroken) "US:AAPL" "hi" = .ok finishedThenBroken ∧
      loopback.arrivals (.replaying finishedThenBroken) [.startSession "US:AAPL" "hi"] =
        decodedEvents finishedThenBroken.frames ++ [connectionLost (.socket .brokenOff)] := by
  obtain ⟨last, harrivals, -, -, hlost, -⟩ := arrivals_after_frames start_finishedThenBroken
  rw [harrivals, hlost .brokenOff breaks_finishedThenBroken]
  exact ⟨start_finishedThenBroken, rfl⟩

/-- An event that no frame carried can follow a terminal one. -/
theorem lost_after_finished :
    ¬ ∀ (b : Backend) (net : Network) (symbol query : String) (stream : Stream),
      b.start net symbol query = .ok stream →
        ∃ last : List Event,
          b.arrivals net [.startSession symbol query] = decodedEvents stream.frames ++ last ∧
            (last ≠ [] ↔ ∀ e ∈ decodedEvents stream.frames, e.isTerminal = false) := by
  intro h
  obtain ⟨last, harrivals, hlast⟩ := h _ _ _ _ _ start_finishedThenBroken
  rw [arrivals_of_start start_finishedThenBroken, settled_forward,
    closingEvents_of_breaks breaks_finishedThenBroken] at harrivals
  have hnone := hlast.1 (List.append_cancel_left harrivals ▸ List.cons_ne_nil _ _)
  obtain ⟨e, he, hterminal⟩ := terminal_finishedThenBroken
  rw [hnone e he] at hterminal
  cases hterminal

end MeetingRoom
