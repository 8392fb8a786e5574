/-
  MeetingRoom/Event/Envelope.lean
  ===============================
  **Envelopes: events as they travel.**

  A frame of the event stream is the text of an envelope: the name of the
  event, its payload, and sometimes a time.  The envelope is read first, with
  the payload as a tree, and then the payload by its kind.  A payload of null
  counts as an empty object, since some producers leave it out.
-/
import MeetingRoom.Event
import MeetingRoom.Json.Print

namespace MeetingRoom

open Json (Codec Fields Problem TextError Value)

/-- An event as it travels. -/
structure Envelope where
  typeName : String
  payload : Value := .null
  timestamp : Option String := none

namespace Envelope

def fields : Fields :=
  .cons "event_type" .required .text <|
  .cons "payload" .optional .anything <|
  .cons "timestamp" .optional (.nullable .text) .nil

/-- Envelopes as data; one without a time is written without the field. -/
def codec : Codec Envelope where
  shape := .record "RawEnvelope" fields
  ofData
    | (typeName, payload, timestamp, ()) =>
      { typeName, payload := payload.getD .null, timestamp := timestamp.join }
  toData e := (e.typeName, some e.payload, e.timestamp.map some, ())
  ofData_toData e := by
    obtain ⟨_, _, timestamp⟩ := e
    cases timestamp <;> rfl

def print (e : Envelope) : String := (codec.write e).print

end Envelope

/-! ### Decoding -/

/-- Why a frame is no event. -/
inductive DecodeError where
  | envelope (why : TextError)
  | payload (typeName : String) (why : Problem)
deriving DecidableEq

namespace DecodeError

/-- The wording of what lies behind the error. -/
def source : DecodeError → String
  | .envelope why => why.message
  | .payload _ why => why.message

def message : DecodeError → String
  | .envelope why => "malformed event envelope: " ++ why.message
  | .payload typeName why =>
    "invalid payload for `" ++ typeName ++ "` event: " ++ why.message

end DecodeError

namespace Event

def ofEnvelope (e : Envelope) : Except DecodeError Event :=
  match h : (Named.ofName? e.typeName : Option EventKind) with
  | none => .ok (.unknown e.typeName h)
  | some kind =>
    let payload := match e.payload with
      | .null => .object []
      | other => other
    (ofPayload kind payload).mapError (.payload e.typeName)

def decode (frame : String) : Except DecodeError Event := do
  let e ← (Envelope.codec.parse frame).mapError .envelope
  ofEnvelope e

def envelope (e : Event) : Envelope := { typeName := e.typeName, payload := e.payload }

end Event

end MeetingRoom
