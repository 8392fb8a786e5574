/-
  MeetingRoom/Message.lean
  ========================
  **Entries of the transcript.**

  A message says who spoke, from which seat, in which round, and what kind of
  contribution it was.  Messages are never changed once they are in the
  transcript.
-/
import MeetingRoom.Label

namespace MeetingRoom

open Json (Codec Value Fields)
open Decimal (Double)

/-! ### Seats and kinds -/

/-- The known seats of the meeting room. -/
inductive Seat where
  | moderator
  | technical
  | fundamental
  | sentiment
  | risk
  | debater
  | user
deriving DecidableEq, Repr

instance : Named Seat where
  all := [.moderator, .technical, .fundamental, .sentiment, .risk, .debater, .user]
  name
    | .moderator => "moderator"
    | .technical => "technical"
    | .fundamental => "fundamental"
    | .sentiment => "sentiment"
    | .risk => "risk"
    | .debater => "debater"
    | .user => "user"
  mem_all x := by cases x <;> decide
  name_injective x y h := by cases x <;> cases y <;> first | rfl | exact absurd h (by decide)

abbrev Role := Label Seat

/-- The known kinds of contributions. -/
inductive Contribution where
  | opening
  | thinking
  | opinion
  | toolCall
  | toolResult
  | summary
  | report
deriving DecidableEq, Repr

instance : Named Contribution where
  all := [.opening, .thinking, .opinion, .toolCall, .toolResult, .summary, .report]
  name
    | .opening => "opening"
    | .thinking => "thinking"
    | .opinion => "opinion"
    | .toolCall => "tool_call"
    | .toolResult => "tool_result"
    | .summary => "summary"
    | .report => "report"
  mem_all x := by cases x <;> decide
  name_injective x y h := by cases x <;> cases y <;> first | rfl | exact absurd h (by decide)

abbrev MessageKind := Label Contribution

/-- A message is an opinion unless it says otherwise. -/
def MessageKind.standard : MessageKind := .known .opinion

/-! ### Messages -/

/-- One entry of the transcript. -/
structure Message where
  agentId : String
  agentName : String
  role : Role
  content : String
  kind : MessageKind := MessageKind.standard
  round : UInt32 := 1
  /-- As the producer formatted it. -/
  timestamp : String := ""
  dataReferences : List Value := []
  confidence : Double := Double.one

namespace Message

/-- The entry for a question that the local user typed. -/
def fromUser (author content timestamp : String) (round : UInt32) : Message where
  agentId := "user"
  agentName := author
  role := .known .user
  content := content
  round := round
  timestamp := timestamp

def fields : Fields :=
  .cons "agent_id" .required .text <|
  .cons "agent_name" .required .text <|
  .cons "role" .required .text <|
  .cons "content" .required .text <|
  .cons "msg_type" .optional (.nullable .text) <|
  .cons "round" .optional .word32 <|
  .cons "timestamp" .optional (.nullable .text) <|
  .cons "data_references" .optional (.listOf .anything) <|
  .cons "confidence" .optional .double .nil

/-- Messages as data.  Without a kind a message is an opinion, without a round
    it belongs to the first, without a confidence it is certain; a message
    without data references is written without the field. -/
def codec : Codec Message where
  shape := .record "Message" fields
  ofData
    | (agentId, agentName, role, content, kind, round, timestamp, refs, confidence, ()) =>
      { agentId, agentName, role := .ofName role, content
        kind := (kind.join.map Label.ofName).getD MessageKind.standard
        round := round.getD 1
        timestamp := timestamp.join.getD ""
        dataReferences := refs.getD []
        confidence := confidence.getD Double.one }
  toData m :=
    (m.agentId, m.agentName, m.role.name, m.content, some (some m.kind.name), some m.round,
      some (some m.timestamp), if m.dataReferences.isEmpty then none else some m.dataReferences,
      some m.confidence, ())
  ofData_toData m := by
    obtain ⟨_, _, _, _, _, _, _, refs, _⟩ := m
    cases refs <;> simp [Label.ofName_name]

end Message

end MeetingRoom
