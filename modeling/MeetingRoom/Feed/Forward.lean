/-
  MeetingRoom/Feed/Forward.lean
  =============================
  **Forwarding the events of one stream.**

  The frames are read up to a close frame, the end of the stream or a broken
  connection, and their events passed on in order.  If the stream ends before
  any terminal event was passed on, an error event is passed on in its place,
  so that whoever waits for the turn to end does not wait for ever.  A broken
  connection is reported to the caller instead, which then passes on an error
  of its own.

  A receiver may go away: it takes a number of events, and the first one after
  that ends the forwarding without a word.
-/
import MeetingRoom.Failure
import MeetingRoom.Feed.Frame

namespace MeetingRoom

/-- How a stream ends, if not by a close frame. -/
inductive StreamEnd where
  | exhausted
  | broken (why : SocketProblem)
deriving DecidableEq

/-- What forwarding leads to. -/
structure Delivery where
  /-- The events that the receiver got, in order. -/
  sent : List Event := []
  result : Except Failure Unit := .ok ()
  notices : List Notice := []

namespace Delivery

def withEvent (e : Event) (d : Delivery) : Delivery := { d with sent := e :: d.sent }

/-- The delivery that begins with some notices. -/
def withNotices (ns : List Notice) (d : Delivery) : Delivery :=
  { d with notices := ns ++ d.notices }

end Delivery

/-- The error event of a stream that ends early. -/
def connectionClosed : Event := .error { message := "connection closed" }

def connectionLost (f : Failure) : Event := .error { message := "connection lost: " ++ f.message }

/-- The receiver takes another event; `none` is a receiver that stays. -/
def Receiving (capacity : Option Nat) : Prop := capacity ≠ some 0

instance (capacity : Option Nat) : Decidable (Receiving capacity) :=
  inferInstanceAs (Decidable (capacity ≠ some 0))

/-- The end of a stream: early, unless a terminal event was passed on. -/
def endOfStream (capacity : Option Nat) (finished : Bool) : Delivery :=
  if finished then {}
  else
    { sent := if Receiving capacity then [connectionClosed] else []
      notices := [.streamEndedEarly] }

/-- Forwards the events of the frames.  `finished` says that a terminal event
    was passed on already. -/
def forward (capacity : Option Nat) (finished : Bool) (ending : StreamEnd) :
    List Frame → Delivery
  | [] =>
    match ending with
    | .exhausted => endOfStream capacity finished
    | .broken why => { result := .error (.socket why) }
  | .close :: _ => endOfStream capacity finished
  | frame :: rest =>
    let reading := frame.read
    match reading.event with
    | none => (forward capacity finished ending rest).withNotices reading.notices
    | some e =>
      if Receiving capacity then
        (forward (capacity.map (· - 1)) (finished || e.isTerminal) ending rest).withEvent e
      else {}

/-- All that a stream puts before the receiver that stays: the events, and the
    error event of a broken connection. -/
def Delivery.settled (d : Delivery) : List Event :=
  match d.result with
  | .ok () => d.sent
  | .error f => d.sent ++ [connectionLost f]

/-- All that is noted of a stream: what its frames gave rise to, and a broken
    connection. -/
def Delivery.settledNotices (d : Delivery) : List Notice :=
  match d.result with
  | .ok () => d.notices
  | .error f => d.notices ++ [.streamFailed f.message]

end MeetingRoom
