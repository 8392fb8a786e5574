/-
  MeetingRoom/Proofs/Event/TextForm.lean
  ======================================
  **An envelope and its text decode alike.**

  An event can be decoded from an envelope that is at hand or from the text of one.
  The text adds what belongs to texts alone: escapes, the spelling of numbers, the
  order of members and the limit of nesting.  None of it changes the outcome, as
  long as the payload's numbers are whole and the envelope with its payload keeps
  within the limit (`Envelope.parse_print`, `text_decodes_like_envelope`).
-/
import MeetingRoom.Proofs.Event.Stability
import MeetingRoom.Proofs.Json.PrintedRecord

namespace MeetingRoom

open Json (Codec Value)

namespace Envelope

theorem portable_write {e : Envelope} {levels : Nat} (h : e.payload.Portable levels) :
    (codec.write e).Portable (levels + 1) := by
  have htext : ∀ s : String, (Value.text s).Portable levels := by
    intro s
    exact ⟨trivial, trivial, Nat.zero_le _⟩
  refine Value.portable_ofMembers ?_
  intro m hm
  obtain ⟨typeName, payload, timestamp⟩ := e
  cases timestamp with
  | none =>
    change m ∈ [("event_type", Value.text typeName), ("payload", payload)] at hm
    obtain rfl | rfl : m = ("event_type", .text typeName) ∨ m = ("payload", payload) := by
      simpa using hm
    · exact htext typeName
    · exact h
  | some time =>
    change m ∈ [("event_type", Value.text typeName), ("payload", payload),
      ("timestamp", .text time)] at hm
    obtain rfl | rfl | rfl : m = ("event_type", .text typeName) ∨ m = ("payload", payload) ∨
        m = ("timestamp", .text time) := by
      simpa using hm
    · exact htext typeName
    · exact h
    · exact htext time

/-- The envelope itself takes one level of the nesting that is allowed. -/
theorem parse_print {e : Envelope} (h : e.payload.Portable 126) : codec.parse e.print = .ok e :=
  Codec.parse_print rfl (portable_write h)

end Envelope

namespace Event

theorem decode_of_parsed_envelope {frame : String} {e : Envelope}
    (h : Envelope.codec.parse frame = .ok e) : decode frame = ofEnvelope e := by
  rw [decode, h]
  rfl

theorem ofEnvelope_ne_envelope (e : Envelope) (why : Json.TextError) :
    ofEnvelope e ≠ .error (.envelope why) := by
  intro h
  cases hkind : (Named.ofName? e.typeName : Option EventKind) with
  | none =>
    rw [ofEnvelope_of_unlisted hkind] at h
    cases h
  | some kind =>
    obtain ⟨v, -, hdecoded⟩ := ofEnvelope_of_kind hkind
    rw [hdecoded] at h
    cases hpayload : ofPayload kind v with
    | ok ev =>
      rw [hpayload] at h
      cases h
    | error problem =>
      rw [hpayload] at h
      cases h

end Event

/-- **The text of an envelope is decoded like the envelope.**  The numbers of the
    payload must be whole, its objects in order, as they are in every tree that was
    read, and it may be nested 126 deep.  Then both ways give the same event or the
    same problem with the payload, and the text itself is never refused. -/
theorem text_decodes_like_envelope (e : Envelope) (hwhole : e.payload.Whole)
    (hordered : e.payload.Ordered) (hdepth : e.payload.depth ≤ 126) :
    Event.decode e.print = Event.ofEnvelope e ∧
      ∀ why, Event.decode e.print ≠ .error (.envelope why) := by
  have hparse := Envelope.parse_print ⟨hwhole, hordered, hdepth⟩
  rw [Event.decode_of_parsed_envelope hparse]
  exact ⟨rfl, Event.ofEnvelope_ne_envelope e⟩

/-- Lists inside lists, with a text in the innermost. -/
def nestedLists (depth : Nat) : Value := Nat.repeat (fun v => .list [v]) depth (.text "")

theorem portable_nestedLists (depth : Nat) : (nestedLists depth).Portable depth := by
  induction depth with
  | zero => exact ⟨trivial, trivial, Nat.le_refl 0⟩
  | succ depth ih =>
    refine Value.portable_list_iff.2 ⟨depth, rfl, ?_⟩
    intro v hv
    rw [List.mem_singleton.1 hv]
    exact ih

/-- An envelope that goes to the limits: of nesting, of numbers and of characters. -/
def farthestEnvelope : Envelope where
  typeName := "status"
  payload := .object [
    ("\x01\"\\\n\x7f", .list [.number (.whole (-0x8000000000000000) (by decide)),
      .number (.whole 0xffffffffffffffff (by decide))]),
    ("deep", nestedLists 125),
    ("message", .text "\"老\"\t\x1f\\u0041/😀\u2028")]
  timestamp := some "\x0c\x08\r"

theorem portable_farthestEnvelope : farthestEnvelope.payload.Portable 126 := by
  refine Value.portable_object_iff.2 ⟨?_, 125, rfl, ?_⟩
  · unfold Entries.Ascending
    decide
  · intro m hm
    simp only [List.mem_cons, List.not_mem_nil, or_false] at hm
    rcases hm with rfl | rfl | rfl
    · exact ⟨⟨trivial, trivial, trivial⟩, ⟨trivial, trivial, trivial⟩, by decide⟩
    · exact portable_nestedLists 125
    · exact ⟨trivial, trivial, Nat.zero_le _⟩

theorem farthestEnvelope_decodes :
    Event.decode farthestEnvelope.print =
      .ok (.status { message := some "\"老\"\t\x1f\\u0041/😀\u2028" }) := by
  have h := portable_farthestEnvelope
  rw [(text_decodes_like_envelope farthestEnvelope h.whole h.ordered h.depth_le).1]
  rfl

end MeetingRoom
