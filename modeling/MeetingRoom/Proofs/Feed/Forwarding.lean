/-
  MeetingRoom/Proofs/Feed/Forwarding.lean
  =======================================
  **Which events of a stream are forwarded.**

  To a receiver that stays, `forward` sends the events of the text and binary
  frames before the first close frame, and after them at most the error event of
  a stream that ended too early (`sent_forward`).  What a frame carries is said
  without the reader: a frame holds a text, or none, and a text is an event, or
  none.  Frames that carry nothing can stand anywhere (`Padded`).
-/
import MeetingRoom.Proofs.Feed.Arrivals
import MeetingRoom.Proofs.Text.Utf8

namespace MeetingRoom

open Text (Utf8.encode Utf8.decode_eq_ok_iff)

/-! ### What a frame carries -/

namespace Frame

/-- The frame holds a text: as such, or in its bytes. -/
def Holds : Frame → String → Prop
  | .text content, s => content = s
  | .binary bytes, s => bytes = Utf8.encode s
  | .ping _, _ | .pong _, _ | .close, _ => False

/-- The frame does not end the stream and carries no event. -/
inductive Silent : Frame → Prop
  | ping (bytes : List UInt8) : Silent (.ping bytes)
  | pong (bytes : List UInt8) : Silent (.pong bytes)
  | noText {bytes : List UInt8} (h : ∀ s, bytes ≠ Utf8.encode s) : Silent (.binary bytes)
  | noEvent {frame : Frame} {s : String} {why : DecodeError} (h : frame.Holds s)
      (hs : Event.decode s = .error why) : Silent frame

theorem read_text (s : String) : (Frame.text s).read = .ofText s := rfl

/-- A text in the bytes of a binary frame is read as one in a text frame. -/
theorem read_encode (s : String) : (Frame.binary (Utf8.encode s)).read = (Frame.text s).read := by
  have hdecode := Utf8.decode_eq_ok_iff.2 (rfl : Utf8.encode s = Utf8.encode s)
  simp only [read, hdecode]

theorem event_ofText_eq_some_iff {s : String} {e : Event} :
    (Reading.ofText s).event = some e ↔ Event.decode s = .ok e := by
  unfold Reading.ofText
  cases Event.decode s <;> simp

theorem read_of_holds {frame : Frame} {s : String} (h : frame.Holds s) :
    frame.read = .ofText s := by
  cases frame with
  | text content => rw [show content = s from h, read_text]
  | binary bytes => rw [show bytes = Utf8.encode s from h, read_encode, read_text]
  | ping _ | pong _ | close => cases h

theorem event_read_of_no_text {frame : Frame} (h : ∀ s, ¬ frame.Holds s) :
    frame.read.event = none := by
  cases frame with
  | text content => exact absurd rfl (h content)
  | binary bytes =>
    cases hdecode : Text.Utf8.decode bytes with
    | ok s => exact absurd (Utf8.decode_eq_ok_iff.1 hdecode) (h s)
    | error why => simp only [read, hdecode]
  | ping _ | pong _ | close => rfl

theorem event_read_eq_some_iff {frame : Frame} {e : Event} :
    frame.read.event = some e ↔ ∃ s, frame.Holds s ∧ Event.decode s = .ok e := by
  by_cases h : ∃ s, frame.Holds s
  · obtain ⟨s, hs⟩ := h
    rw [read_of_holds hs, event_ofText_eq_some_iff]
    constructor
    · intro he
      exact ⟨s, hs, he⟩
    · rintro ⟨s', hs', he⟩
      rw [← event_ofText_eq_some_iff, ← read_of_holds hs, read_of_holds hs']
      exact event_ofText_eq_some_iff.2 he
  · rw [event_read_of_no_text fun s hs => h ⟨s, hs⟩]
    constructor
    · intro he
      cases he
    · rintro ⟨s, hs, -⟩
      exact absurd ⟨s, hs⟩ h

theorem Silent.ne_close {frame : Frame} (h : frame.Silent) : frame ≠ .close := by
  cases h with
  | ping _ | pong _ | noText _ => simp
  | noEvent h _ =>
    rintro rfl
    exact h

theorem Silent.event_read {frame : Frame} (h : frame.Silent) : frame.read.event = none := by
  cases h with
  | ping _ | pong _ => rfl
  | noText h => exact event_read_of_no_text h
  | noEvent h hs =>
    rw [read_of_holds h]
    simp only [Reading.ofText, hs]

end Frame

/-! ### Silent frames in between -/

/-- The second sequence has further silent frames, anywhere. -/
inductive Padded : List Frame → List Frame → Prop
  | nil : Padded [] []
  | keep (frame : Frame) {frames padded : List Frame} (h : Padded frames padded) :
      Padded (frame :: frames) (frame :: padded)
  | pad {frame : Frame} (hsilent : frame.Silent) {frames padded : List Frame}
      (h : Padded frames padded) : Padded frames (frame :: padded)

theorem Padded.mem_close_iff {frames padded : List Frame} (h : Padded frames padded) :
    .close ∈ padded ↔ .close ∈ frames := by
  induction h with
  | nil => rfl
  | keep frame _ ih => rw [List.mem_cons, List.mem_cons, ih]
  | pad hsilent _ ih =>
    rw [List.mem_cons, ih]
    exact or_iff_right hsilent.ne_close.symm

theorem Padded.decodedEvents_eq {frames padded : List Frame} (h : Padded frames padded) :
    decodedEvents padded = decodedEvents frames := by
  induction h with
  | nil => rfl
  | keep frame _ ih =>
    by_cases hclose : frame = .close
    · rw [hclose, decodedEvents_close, decodedEvents_close]
    · rw [decodedEvents_cons hclose, decodedEvents_cons hclose, ih]
  | pad hsilent _ ih =>
    rw [decodedEvents_cons hsilent.ne_close, hsilent.event_read, ih]
    rfl

/-! ### What is sent -/

/-- The stream ends by a close frame, or without a fault after its last frame. -/
def EndsInOrder (ending : StreamEnd) (frames : List Frame) : Prop :=
  ending = .exhausted ∨ .close ∈ frames

theorem result_endOfStream (finished : Bool) : (endOfStream none finished).result = .ok () := by
  cases finished <;> rfl

/-- Forwarding fails exactly with the fault that the stream ends with. -/
theorem result_forward (finished : Bool) (ending : StreamEnd) (frames : List Frame) :
    (EndsInOrder ending frames → (forward none finished ending frames).result = .ok ()) ∧
      (¬ EndsInOrder ending frames → ∃ why,
        (forward none finished ending frames).result = .error (.socket why) ∧
          ending = .broken why ∧ .close ∉ frames) := by
  induction frames generalizing finished with
  | nil =>
    cases ending with
    | exhausted => exact ⟨fun _ => result_endOfStream finished, fun h => absurd (.inl rfl) h⟩
    | broken why =>
      refine ⟨fun h => ?_, fun _ => ⟨why, rfl, rfl, by simp⟩⟩
      rcases h with h | h <;> cases h
  | cons frame rest ih =>
    by_cases hclose : frame = .close
    · subst hclose
      exact ⟨fun _ => result_endOfStream finished,
        fun h => absurd (.inr List.mem_cons_self) h⟩
    · have hmem : Frame.close ∈ frame :: rest ↔ .close ∈ rest := by simp [Ne.symm hclose]
      rw [EndsInOrder, hmem]
      cases hread : frame.read.event with
      | none =>
        rw [forward_of_silent hclose hread]
        exact ih finished
      | some e =>
        rw [forward_of_event hclose hread]
        exact ih (finished || e.isTerminal)

theorem sent_forward_of_endsInOrder {ending : StreamEnd} {frames : List Frame}
    (h : EndsInOrder ending frames) :
    (forward none false ending frames).sent =
      decodedEvents frames ++ earlyEnd ((decodedEvents frames).any Event.isTerminal) := by
  have hsettled := settled_forward false ending frames
  rw [Delivery.settled, (result_forward false ending frames).1 h, Bool.false_or] at hsettled
  rw [show (forward none false ending frames).sent = _ from hsettled]
  congr 1
  rcases h with rfl | hclose
  · rfl
  · cases ending with
    | exhausted => rfl
    | broken why => exact if_pos hclose

theorem sent_forward_of_broken {ending : StreamEnd} {frames : List Frame}
    (h : ¬ EndsInOrder ending frames) :
    (forward none false ending frames).sent = decodedEvents frames := by
  obtain ⟨why, hresult, rfl, hclose⟩ := (result_forward false ending frames).2 h
  have hsettled := settled_forward false (.broken why) frames
  rw [Delivery.settled, hresult, closingEvents, if_neg hclose] at hsettled
  exact List.append_cancel_right hsettled

/-- What is sent depends on the events of the frames and on the way the stream
    ends, and on nothing else. -/
theorem sent_forward_congr {ending ending' : StreamEnd} {frames frames' : List Frame}
    (hevents : decodedEvents frames = decodedEvents frames')
    (hends : EndsInOrder ending frames ↔ EndsInOrder ending' frames') :
    (forward none false ending frames).sent = (forward none false ending' frames').sent := by
  by_cases h : EndsInOrder ending frames
  · rw [sent_forward_of_endsInOrder h, sent_forward_of_endsInOrder (hends.1 h), hevents]
  · rw [sent_forward_of_broken h, sent_forward_of_broken fun h' => h (hends.2 h'), hevents]

theorem decodedEvents_append_close (before after : List Frame) :
    decodedEvents (before ++ .close :: after) = decodedEvents (before ++ [.close]) := by
  induction before with
  | nil => rfl
  | cons frame rest ih =>
    rw [List.cons_append, List.cons_append]
    by_cases hclose : frame = .close
    · rw [hclose, decodedEvents_close, decodedEvents_close]
    · rw [decodedEvents_cons hclose, decodedEvents_cons hclose, ih]

/-- **Which events are forwarded.**  The events that are sent are those of the text
    and binary frames before the first close frame or the end of the stream, in
    order.  One error event follows if the stream ended in order and none of them
    was terminal, and nothing else follows.  Bytes that are a text are read as
    the text; frames that carry no event may be added or left out anywhere, and
    what comes after a close frame does not count. -/
theorem forward_sends_decodings (ending : StreamEnd) (frames : List Frame) :
    let sent := (forward none false ending frames).sent
    let events := (frames.takeWhile (· ≠ .close)).filterMap fun frame => frame.read.event
    (∀ (frame : Frame) (e : Event),
        frame.read.event = some e ↔ ∃ s, frame.Holds s ∧ Event.decode s = .ok e) ∧
      (∃ last, sent = events ++ last ∧
        (EndsInOrder ending frames →
          (last = [.error { message := "connection closed" }] ↔
            ∀ e ∈ events, e.isTerminal = false) ∧
          (last = [] ↔ ∃ e ∈ events, e.isTerminal = true)) ∧
        (¬ EndsInOrder ending frames → last = [])) ∧
      (∀ s, (Frame.binary (Utf8.encode s)).read = (Frame.text s).read) ∧
      (∀ frames', Padded frames frames' ∨ Padded frames' frames →
        (forward none false ending frames').sent = sent) ∧
      ∀ before after, frames = before ++ .close :: after →
        ∀ ending', (forward none false ending' (before ++ [.close])).sent = sent := by
  intro sent events
  refine ⟨fun _ _ => Frame.event_read_eq_some_iff, ?_, Frame.read_encode, ?_, ?_⟩
  · by_cases h : EndsInOrder ending frames
    · refine ⟨_, sent_forward_of_endsInOrder h, fun _ => ?_, fun h' => absurd h h'⟩
      have hevents : decodedEvents frames = events := rfl
      rw [hevents]
      cases hterminal : events.any Event.isTerminal with
      | true =>
        have hsome := List.any_eq_true.1 hterminal
        refine ⟨⟨fun hlast => ?_, fun hnone => ?_⟩, fun _ => hsome, fun _ => rfl⟩
        · cases hlast
        · obtain ⟨e, he, hend⟩ := hsome
          rw [hnone e he] at hend
          cases hend
      | false =>
        have hnone : ∀ e ∈ events, e.isTerminal = false := by simpa using hterminal
        refine ⟨⟨fun _ => hnone, fun _ => rfl⟩, fun hlast => ?_, fun hsome => ?_⟩
        · cases hlast
        · obtain ⟨e, he, hend⟩ := hsome
          rw [hnone e he] at hend
          cases hend
    · refine ⟨[], ?_, fun h' => absurd h' h, fun _ => rfl⟩
      rw [List.append_nil]
      exact sent_forward_of_broken h
  · rintro frames' (hpadded | hpadded)
    · refine sent_forward_congr hpadded.decodedEvents_eq ?_
      rw [EndsInOrder, EndsInOrder, hpadded.mem_close_iff]
    · refine sent_forward_congr hpadded.decodedEvents_eq.symm ?_
      rw [EndsInOrder, EndsInOrder, hpadded.mem_close_iff]
  · rintro before after rfl ending'
    refine sent_forward_congr (decodedEvents_append_close before after).symm ?_
    exact ⟨fun _ => .inr (by simp), fun _ => .inr (by simp)⟩

end MeetingRoom
