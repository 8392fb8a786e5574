/-
  MeetingRoom/Feed/Frame.lean
  ===========================
  **Frames of the event stream.**

  Text frames, and binary frames that hold a text, carry events.  A frame that
  carries none is noted and dropped; pings and pongs are not even noted.
-/
import MeetingRoom.Session.Action

namespace MeetingRoom

open Text (Utf8.Flaw)

/-- A frame of the event stream. -/
inductive Frame where
  | text (content : String)
  | binary (bytes : List UInt8)
  | ping (bytes : List UInt8)
  | pong (bytes : List UInt8)
  | close
deriving DecidableEq

/-- What a frame brings: an event, or a notice why it brings none. -/
structure Reading where
  event : Option Event := none
  notices : List Notice := []

/-- The event in a text, or the notice that there is none. -/
def Reading.ofText (text : String) : Reading :=
  match Event.decode text with
  | .ok e => { event := some e }
  | .error why => { notices := [.frameUndecodable why] }

def Frame.read : Frame → Reading
  | .text s => .ofText s
  | .binary bytes =>
    match Text.Utf8.decode bytes with
    | .ok s => .ofText s
    | .error why => { notices := [.frameNotText why] }
  | .ping _ | .pong _ | .close => {}

end MeetingRoom
