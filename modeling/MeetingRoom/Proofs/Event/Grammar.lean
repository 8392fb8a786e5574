/-
  MeetingRoom/Proofs/Event/Grammar.lean
  =====================================
  **Which objects are payloads of events.**

  Payloads are read by one reader that is driven by shapes.  Here the format is
  written down as the producer sees it: for each kind of events a table of rules
  that say which members there may be, what may stand in them and what may be
  left out.  The tables give the very fields that the reader is driven by
  (`Event.ofPayload_eq`), so an object is an event exactly if it obeys the rules
  of its kind (`Event.exists_ofPayload_iff`).
-/
import MeetingRoom.Proofs.Event.Stability
import MeetingRoom.Proofs.Json.Record

namespace MeetingRoom

open Json (Fields Presence Shape Value exists_map_eq_ok_iff map_eq_ok)

/-! ### Rules for fields -/

/-- What may stand in a field. -/
inductive FieldType where
  | text
  | flag
  | word32
  | int64
  | number
  | map
  | texts
  | values
  | steps

/-- What a field may do without. -/
inductive FieldPolicy where
  /-- A value must stand there. -/
  | required
  /-- It may be absent or null. -/
  | tolerant
  /-- It may be absent, but is not null. -/
  | defaulted

structure FieldRule where
  name : String
  policy : FieldPolicy
  type : FieldType

namespace FieldType

def Admits : FieldType → Value → Prop
  | .text, v => ∃ s, v = .text s
  | .flag, v => ∃ b, v = .flag b
  | .word32, v => ∃ n fits, v = .number (.whole n fits) ∧ 0 ≤ n ∧ n < 0x100000000
  | .int64, v =>
    ∃ n fits, v = .number (.whole n fits) ∧ -0x8000000000000000 ≤ n ∧ n < 0x8000000000000000
  | .number, v => ∃ n, v = .number n
  | .map, v => ∃ members, v = .object members
  | .texts, v => ∃ items, v = .list items ∧ ∀ item ∈ items, ∃ s, item = .text s
  | .values, v => ∃ items, v = .list items
  | .steps, v => ∃ items, v = .list items ∧ ∀ item ∈ items, ∃ s, StepSpec.codec.read item = .ok s

def shape : FieldType → Shape
  | .text => .text
  | .flag => .flag
  | .word32 => .word32
  | .int64 => .int64
  | .number => .double
  | .map => .dictionary
  | .texts => .listOf .text
  | .values => .listOf .anything
  | .steps => .listOf StepSpec.codec.shape

end FieldType

namespace FieldPolicy

/-- What may be found under the name of a field. -/
def Accepts (admits : Value → Prop) : FieldPolicy → Option Value → Prop
  | .required, found => ∃ v, found = some v ∧ admits v
  | .tolerant, found => ∀ v, found = some v → v = .null ∨ admits v
  | .defaulted, found => ∀ v, found = some v → admits v

def presence : FieldPolicy → Presence
  | .required => .required
  | .tolerant | .defaulted => .optional

def around : FieldPolicy → Shape → Shape
  | .tolerant, shape => .nullable shape
  | .required, shape | .defaulted, shape => shape

end FieldPolicy

namespace FieldRule

/-- The object obeys the rule. -/
def Admits (rule : FieldRule) (d : Dictionary Value) : Prop :=
  rule.policy.Accepts rule.type.Admits (d.find? rule.name)

/-- The fields that the rules of a table are about. -/
def fields : List FieldRule → Fields
  | [] => .nil
  | rule :: rest =>
    .cons rule.name rule.policy.presence (rule.policy.around rule.type.shape) (fields rest)

theorem names_fields (rules : List FieldRule) : (fields rules).names = rules.map name := by
  induction rules with
  | nil => rfl
  | cons rule rest ih => rw [fields, Fields.names, List.map_cons, ih]

end FieldRule

/-! ### Tables -/

def StepSpec.grammar : List FieldRule := [
  ⟨"step_id", .required, .text⟩,
  ⟨"tool_name", .required, .text⟩,
  ⟨"args_schema", .tolerant, .map⟩,
  ⟨"expected_output", .tolerant, .text⟩,
  ⟨"validation_rules", .tolerant, .texts⟩]

namespace EventKind

/-- The format of the payloads of a kind. -/
def grammar : EventKind → List FieldRule
  | .status | .error | .finished => [
    ⟨"message", .tolerant, .text⟩]
  | .message => [
    ⟨"agent_id", .required, .text⟩,
    ⟨"agent_name", .required, .text⟩,
    ⟨"role", .required, .text⟩,
    ⟨"content", .required, .text⟩,
    ⟨"msg_type", .tolerant, .text⟩,
    ⟨"round", .defaulted, .word32⟩,
    ⟨"timestamp", .tolerant, .text⟩,
    ⟨"data_references", .defaulted, .values⟩,
    ⟨"confidence", .defaulted, .number⟩]
  | .planGenerated => [
    ⟨"plan_id", .required, .int64⟩,
    ⟨"objective", .required, .text⟩,
    ⟨"constraints", .tolerant, .map⟩,
    ⟨"steps", .tolerant, .steps⟩,
    ⟨"symbol_key", .tolerant, .text⟩,
    ⟨"trigger_reason", .tolerant, .text⟩,
    ⟨"requester", .tolerant, .text⟩,
    ⟨"created_at", .tolerant, .text⟩]
  | .toolStart => [
    ⟨"step_id", .required, .text⟩,
    ⟨"step", .tolerant, .word32⟩,
    ⟨"total", .tolerant, .word32⟩,
    ⟨"tool_name", .tolerant, .text⟩]
  | .toolComplete => [
    ⟨"step_id", .required, .text⟩,
    ⟨"quality", .tolerant, .text⟩,
    ⟨"has_data", .tolerant, .flag⟩]
  | .toolError => [
    ⟨"step_id", .required, .text⟩,
    ⟨"error", .tolerant, .text⟩]
  | .stateChange => [
    ⟨"status", .required, .text⟩]
  | .report => [
    ⟨"symbol_key", .defaulted, .text⟩,
    ⟨"title", .defaulted, .text⟩,
    ⟨"thesis", .defaulted, .text⟩,
    ⟨"bull_case", .defaulted, .texts⟩,
    ⟨"bear_case", .defaulted, .texts⟩,
    ⟨"risks", .defaulted, .texts⟩,
    ⟨"assumptions", .defaulted, .texts⟩,
    ⟨"valuation_gap", .tolerant, .text⟩,
    ⟨"target_price", .tolerant, .map⟩,
    ⟨"conclusion", .defaulted, .text⟩,
    ⟨"generated_at", .tolerant, .text⟩]

def fields (kind : EventKind) : Fields := FieldRule.fields kind.grammar

/-- The name that problems give to the payloads of a kind. -/
def recordName : EventKind → String
  | .status => "StatusPayload"
  | .message => "Message"
  | .planGenerated => "ResearchPlan"
  | .toolStart => "ToolStartPayload"
  | .toolComplete => "ToolCompletePayload"
  | .toolError => "ToolErrorPayload"
  | .stateChange => "StateChangePayload"
  | .error => "ErrorPayload"
  | .report => "StructuredReport"
  | .finished => "FinishedPayload"

/-- The event that has these fields. -/
def make : (kind : EventKind) → kind.fields.Denote → Event
  | .status, x => .status (StatusUpdate.codec.ofData x)
  | .message, x => .message (Message.codec.ofData x)
  | .planGenerated, x => .planGenerated (Plan.codec.ofData x)
  | .toolStart, x => .toolStart (ToolStart.codec.ofData x)
  | .toolComplete, x => .toolComplete (ToolCompletion.codec.ofData x)
  | .toolError, x => .toolError (ToolFailure.codec.ofData x)
  | .stateChange, x => .stateChange (ActivityChange.codec.ofData x)
  | .error, x => .error (ErrorReport.codec.ofData x)
  | .report, x => .report (Report.codec.ofData x)
  | .finished, x => .finished (Closing.codec.ofData x)

theorem nodup_names_grammar (kind : EventKind) : (kind.grammar.map FieldRule.name).Nodup := by
  cases kind <;> decide

theorem nodup_names (kind : EventKind) : kind.fields.names.Nodup := by
  rw [fields, FieldRule.names_fields]
  exact kind.nodup_names_grammar

end EventKind

theorem Event.ofPayload_eq (kind : EventKind) (v : Value) :
    ofPayload kind v = ((Shape.record kind.recordName kind.fields).read v).map kind.make := by
  have hread : ∀ {α : Type} (codec : Json.Codec α) (make : α → Event),
      (codec.read v).map make = (codec.shape.read v).map fun x => make (codec.ofData x) := by
    intro α codec make
    rw [Json.Codec.read]
    cases codec.shape.read v <;> rfl
  cases kind <;> exact hread _ _

theorem Event.ofEnvelope_object (kind : EventKind) (d : Dictionary Value)
    (timestamp : Option String) :
    ofEnvelope { typeName := Named.name kind, payload := .object d.entries, timestamp } =
      (ofPayload kind (.object d.entries)).mapError (.payload (Named.name kind)) := by
  obtain ⟨v, hv, hdecoded⟩ := ofEnvelope_of_kind
    (e := { typeName := Named.name kind, payload := .object d.entries, timestamp })
    (Named.ofName?_name kind)
  rw [hdecoded, hv (by simp)]

/-! ### Which objects are events -/

/-- A value is admitted exactly if the reader takes it. -/
theorem FieldType.admits_iff {type : FieldType} {v : Value} :
    type.Admits v ↔ ∃ x, type.shape.read v = .ok x := by
  cases type with
  | text => exact exists_congr fun _ => Shape.read_text_eq_ok_iff.symm
  | flag => exact exists_congr fun _ => Shape.read_flag_eq_ok_iff.symm
  | word32 => exact Shape.exists_read_word32_iff.symm
  | int64 => exact Shape.exists_read_int64_iff.symm
  | number => exact Shape.exists_read_double_iff.symm
  | map => exact Shape.exists_read_dictionary_iff.symm
  | texts =>
    rw [shape, Shape.exists_read_listOf_iff]
    exact exists_congr fun items => and_congr_right fun _ => forall₂_congr fun item _ =>
      exists_congr fun _ => Shape.read_text_eq_ok_iff.symm
  | values =>
    rw [shape, Shape.exists_read_listOf_iff]
    simp [Admits, Shape.read]
  | steps =>
    rw [shape, Shape.exists_read_listOf_iff]
    simp [Admits, Json.Codec.read, map_eq_ok]

theorem FieldPolicy.accepts_iff {policy : FieldPolicy} {type : FieldType} {found : Option Value} :
    policy.Accepts type.Admits found ↔
      (policy.presence = .required → found ≠ none) ∧
        ∀ v, found = some v → ∃ x, (policy.around type.shape).read v = .ok x := by
  cases policy with
  | required =>
    constructor
    · rintro ⟨v, rfl, hadmits⟩
      refine ⟨fun _ => by simp, ?_⟩
      rintro w ⟨⟩
      exact FieldType.admits_iff.1 hadmits
    · rintro ⟨hpresent, htaken⟩
      obtain ⟨v, hv⟩ := Option.ne_none_iff_exists'.1 (hpresent rfl)
      exact ⟨v, hv, FieldType.admits_iff.2 (htaken v hv)⟩
  | tolerant =>
    have hnullable : ∀ v, (v = .null ∨ type.Admits v) ↔
        ∃ x, (Shape.nullable type.shape).read v = .ok x := by
      intro v
      by_cases hv : v = .null
      · subst hv
        simp [Shape.read]
      · rw [Shape.read_nullable_of_ne_null hv, FieldType.admits_iff]
        simp [hv, map_eq_ok]
    simp only [Accepts, presence, around, hnullable]
    simp
  | defaulted =>
    simp only [Accepts, presence, around, FieldType.admits_iff]
    simp

theorem FieldRule.fits_iff (rules : List FieldRule) (d : Dictionary Value) :
    (FieldRule.fields rules).Fits d.find? ↔ ∀ rule ∈ rules, rule.Admits d := by
  induction rules with
  | nil => simp [fields, Fields.Fits]
  | cons rule rest ih =>
    rw [fields, Fields.Fits, ih, List.forall_mem_cons, Admits, FieldPolicy.accepts_iff]

theorem Event.exists_ofPayload_iff (kind : EventKind) (d : Dictionary Value) :
    (∃ ev, ofPayload kind (.object d.entries) = .ok ev) ↔ ∀ rule ∈ kind.grammar, rule.Admits d := by
  rw [ofPayload_eq]
  exact exists_map_eq_ok_iff.trans
    ((Fields.exists_read_object_iff kind.nodup_names _ d).trans (FieldRule.fits_iff _ d))

theorem StepSpec.exists_read_iff (d : Dictionary Value) :
    (∃ s, codec.read (.object d.entries) = .ok s) ↔ ∀ rule ∈ grammar, rule.Admits d :=
  exists_map_eq_ok_iff.trans
    ((Fields.exists_read_object_iff (by decide) _ d).trans (FieldRule.fits_iff grammar d))

end MeetingRoom
