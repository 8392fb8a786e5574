/-
  MeetingRoom/Proofs/Event/Contents.lean
  ======================================
  **What an event holds of the object that it was decoded from.**

  Each field of an event is the value that stands under the field's name, or a
  default of its own.  Which of the two is said field by field (`Plan.Carries`
  and its siblings), in terms of what the object has there and not of how it is
  read.  Together with the tables of `Grammar.lean` this is the whole of decoding
  (`decoding_follows_grammar`).
-/
import MeetingRoom.Proofs.Event.Grammar

namespace MeetingRoom

open Json (Codec Fields Shape Vacant Value map_eq_ok mapError_eq_ok)
open Decimal (Double)

/-! ### What the values are -/

namespace Json.Value

def IsText (v : Value) (s : String) : Prop := v = .text s

def IsLabel {α : Type} [Named α] (v : Value) (label : Label α) : Prop := v = .text label.name

def IsFlag (v : Value) (b : Bool) : Prop := v = .flag b

def IsWord32 (v : Value) (n : UInt32) : Prop := v = .number (.ofWord32 n)

def IsInt64 (v : Value) (n : Int64) : Prop := v = .number (.ofInt64 n)

def IsDouble (v : Value) (x : Double) : Prop := ∃ n, v = .number n ∧ x = n.toDouble

def IsMap (v : Value) (d : Dictionary Value) : Prop :=
  ∃ members, v = .object members ∧ d = .ofList members

/-- A list whose elements are, one by one, the values. -/
def IsList {α : Type} (is : Value → α → Prop) (v : Value) (xs : List α) : Prop :=
  ∃ items, v = .list items ∧ List.Forall₂ is items xs

def IsSome {α : Type} (is : Value → α → Prop) (v : Value) (x : Option α) : Prop :=
  ∃ y, x = some y ∧ is v y

end Json.Value

section Given

variable {α : Type}

/-- What was found is the value. -/
def Given (is : Value → α → Prop) (found : Option Value) (x : α) : Prop :=
  ∃ v, found = some v ∧ is v x

/-- What was found is the value; without anything it is the default. -/
def GivenOr (default : α) (is : Value → α → Prop) (found : Option Value) (x : α) : Prop :=
  found = none ∧ x = default ∨ Given is found x

/-- What was found is the value; without anything, or with null, it is the default. -/
def GivenUnlessNull (default : α) (is : Value → α → Prop) (found : Option Value) (x : α) : Prop :=
  Vacant found ∧ x = default ∨ ∃ v, found = some v ∧ v ≠ .null ∧ is v x

variable {shape : Shape} {is : Value → α → Prop} {found : Option Value}

theorem Given.of_read {x : shape.Denote} {z : α} (h : found.map shape.read = some (.ok x))
    (his : ∀ v, shape.read v = .ok x → is v z) : Given is found z := by
  obtain ⟨v, rfl, hread⟩ := Option.map_eq_some_iff.1 h
  exact ⟨v, rfl, his v hread⟩

theorem GivenOr.of_read {x : Option shape.Denote} (h : found.map shape.read = x.map .ok)
    (f : Option shape.Denote → α) (his : ∀ v y, shape.read v = .ok y → is v (f (some y))) :
    GivenOr (f none) is found (f x) := by
  cases x with
  | none => exact .inl ⟨by simpa using h, rfl⟩
  | some y => exact .inr (Given.of_read h fun v => his v y)

theorem GivenUnlessNull.of_read {x : Option (Option shape.Denote)}
    (h : found.map (Shape.nullable shape).read = x.map .ok) (f : Option shape.Denote → α)
    (his : ∀ v y, shape.read v = .ok y → is v (f (some y))) :
    GivenUnlessNull (f none) is found (f x.join) := by
  cases x with
  | none => exact .inl ⟨.inl (by simpa using h), rfl⟩
  | some y =>
    obtain ⟨v, rfl, hread⟩ := Option.map_eq_some_iff.1 h
    by_cases hv : v = .null
    · subst hv
      obtain rfl := Except.ok.inj hread
      exact .inl ⟨.inr rfl, rfl⟩
    · rw [Shape.read_nullable_of_ne_null hv] at hread
      obtain ⟨z, hz, rfl⟩ := map_eq_ok.1 hread
      exact .inr ⟨v, rfl, hv, his v z hz⟩

end Given

namespace Json.Value

variable {v : Value}

theorem isText_of_read {s : String} (h : Shape.text.read v = .ok s) : v.IsText s :=
  Shape.read_text_eq_ok_iff.1 h

theorem isLabel_of_read {α : Type} [Named α] {s : String} (h : Shape.text.read v = .ok s) :
    v.IsLabel (Label.ofName s : Label α) := by
  rw [IsLabel, Label.name_ofName]
  exact isText_of_read h

theorem isWord32_of_read {n : UInt32} (h : Shape.word32.read v = .ok n) : v.IsWord32 n :=
  Shape.read_word32_eq_ok_iff.1 h

theorem isMap_of_read {d : Dictionary Value} (h : Shape.dictionary.read v = .ok d) : v.IsMap d :=
  Shape.read_dictionary_eq_ok_iff.1 h

theorem isTexts_of_read {ss : List String} (h : (Shape.listOf .text).read v = .ok ss) :
    v.IsList IsText ss := by
  obtain ⟨items, rfl, hitems⟩ := Shape.read_listOf_eq_ok_iff.1 h
  exact ⟨items, rfl, hitems.imp fun _ _ => isText_of_read⟩

theorem isValues_of_read {vs : List Value} (h : (Shape.listOf .anything).read v = .ok vs) :
    v.IsList Eq vs := by
  obtain ⟨items, rfl, hitems⟩ := Shape.read_listOf_eq_ok_iff.1 h
  exact ⟨items, rfl, hitems.imp fun _ _ => Except.ok.inj⟩

/-- An element of a plan's steps says what the step is. -/
def IsStep (v : Value) (s : StepSpec) : Prop := StepSpec.codec.read v = .ok s

theorem isSteps_of_read {xs : List StepSpec.codec.shape.Denote}
    (h : (Shape.listOf StepSpec.codec.shape).read v = .ok xs) :
    v.IsList IsStep (xs.map StepSpec.codec.ofData) := by
  obtain ⟨items, rfl, hitems⟩ := Shape.read_listOf_eq_ok_iff.1 h
  refine ⟨items, rfl, List.forall₂_map_right_iff.2 (hitems.imp fun item x hitem => ?_)⟩
  rw [IsStep, Codec.read, hitem]
  rfl

end Json.Value

open Json.Value

/-! ### What the events hold -/

structure StatusUpdate.Carries (d : Dictionary Value) (p : StatusUpdate) : Prop where
  message : GivenUnlessNull none (IsSome IsText) (d.find? "message") p.message

structure ErrorReport.Carries (d : Dictionary Value) (p : ErrorReport) : Prop where
  message : GivenUnlessNull "" IsText (d.find? "message") p.message

structure Closing.Carries (d : Dictionary Value) (p : Closing) : Prop where
  message : GivenUnlessNull none (IsSome IsText) (d.find? "message") p.message

structure ActivityChange.Carries (d : Dictionary Value) (p : ActivityChange) : Prop where
  status : Given IsText (d.find? "status") p.status

structure ToolStart.Carries (d : Dictionary Value) (p : ToolStart) : Prop where
  stepId : Given IsText (d.find? "step_id") p.stepId
  step : GivenUnlessNull none (IsSome IsWord32) (d.find? "step") p.step
  total : GivenUnlessNull none (IsSome IsWord32) (d.find? "total") p.total
  toolName : GivenUnlessNull none (IsSome IsText) (d.find? "tool_name") p.toolName

structure ToolCompletion.Carries (d : Dictionary Value) (p : ToolCompletion) : Prop where
  stepId : Given IsText (d.find? "step_id") p.stepId
  quality : GivenUnlessNull none (IsSome IsLabel) (d.find? "quality") p.quality
  hasData : GivenUnlessNull none (IsSome IsFlag) (d.find? "has_data") p.hasData

structure ToolFailure.Carries (d : Dictionary Value) (p : ToolFailure) : Prop where
  stepId : Given IsText (d.find? "step_id") p.stepId
  error : GivenUnlessNull none (IsSome IsText) (d.find? "error") p.error

structure Message.Carries (d : Dictionary Value) (m : Message) : Prop where
  agentId : Given IsText (d.find? "agent_id") m.agentId
  agentName : Given IsText (d.find? "agent_name") m.agentName
  role : Given IsLabel (d.find? "role") m.role
  content : Given IsText (d.find? "content") m.content
  kind : GivenUnlessNull (.known .opinion) IsLabel (d.find? "msg_type") m.kind
  round : GivenOr 1 IsWord32 (d.find? "round") m.round
  timestamp : GivenUnlessNull "" IsText (d.find? "timestamp") m.timestamp
  dataReferences : GivenOr [] (IsList Eq) (d.find? "data_references") m.dataReferences
  confidence : GivenOr Double.one IsDouble (d.find? "confidence") m.confidence

structure StepSpec.Carries (d : Dictionary Value) (s : StepSpec) : Prop where
  stepId : Given IsText (d.find? "step_id") s.stepId
  toolName : Given IsText (d.find? "tool_name") s.toolName
  arguments : GivenUnlessNull .empty IsMap (d.find? "args_schema") s.arguments
  expectedOutput : GivenUnlessNull "" IsText (d.find? "expected_output") s.expectedOutput
  validationRules :
    GivenUnlessNull [] (IsList IsText) (d.find? "validation_rules") s.validationRules

structure Plan.Carries (d : Dictionary Value) (p : Plan) : Prop where
  id : Given IsInt64 (d.find? "plan_id") p.id
  objective : Given IsText (d.find? "objective") p.objective
  constraints : GivenUnlessNull .empty IsMap (d.find? "constraints") p.constraints
  steps : GivenUnlessNull [] (IsList IsStep) (d.find? "steps") p.steps
  symbol : GivenUnlessNull none (IsSome IsText) (d.find? "symbol_key") p.symbol
  reason : GivenUnlessNull (.known .initial) IsLabel (d.find? "trigger_reason") p.reason
  requester : GivenUnlessNull none (IsSome IsText) (d.find? "requester") p.requester
  createdAt : GivenUnlessNull none (IsSome IsText) (d.find? "created_at") p.createdAt

structure Report.Carries (d : Dictionary Value) (r : Report) : Prop where
  symbol : GivenOr "" IsText (d.find? "symbol_key") r.symbol
  title : GivenOr "" IsText (d.find? "title") r.title
  thesis : GivenOr "" IsText (d.find? "thesis") r.thesis
  bullCase : GivenOr [] (IsList IsText) (d.find? "bull_case") r.bullCase
  bearCase : GivenOr [] (IsList IsText) (d.find? "bear_case") r.bearCase
  risks : GivenOr [] (IsList IsText) (d.find? "risks") r.risks
  assumptions : GivenOr [] (IsList IsText) (d.find? "assumptions") r.assumptions
  valuationGap : GivenUnlessNull none (IsSome IsText) (d.find? "valuation_gap") r.valuationGap
  targetPrice : GivenUnlessNull none (IsSome IsMap) (d.find? "target_price") r.targetPrice
  conclusion : GivenOr "" IsText (d.find? "conclusion") r.conclusion
  generatedAt : GivenUnlessNull none (IsSome IsText) (d.find? "generated_at") r.generatedAt

/-- The fields of the event are what the object says. -/
def Event.Carries (d : Dictionary Value) : Event → Prop
  | .status p => p.Carries d
  | .message p => p.Carries d
  | .planGenerated p => p.Carries d
  | .toolStart p => p.Carries d
  | .toolComplete p => p.Carries d
  | .toolError p => p.Carries d
  | .stateChange p => p.Carries d
  | .error p => p.Carries d
  | .report p => p.Carries d
  | .finished p => p.Carries d
  | .unknown _ _ => False

section Fields

variable {found : Option Value}

/-- A text that may be missing, and is then empty. -/
theorem givenOr_text {x : Option String} (h : found.map Shape.text.read = x.map .ok) :
    GivenOr "" IsText found (x.getD "") :=
  .of_read h (fun x => x.getD "") fun _ _ => isText_of_read

theorem givenOr_texts {x : Option (List String)}
    (h : found.map (Shape.listOf .text).read = x.map .ok) :
    GivenOr [] (IsList IsText) found (x.getD []) :=
  .of_read h (fun x => x.getD []) fun _ _ => isTexts_of_read

theorem givenUnlessNull_text {x : Option (Option String)}
    (h : found.map (Shape.nullable .text).read = x.map .ok) :
    GivenUnlessNull "" IsText found (x.join.getD "") :=
  .of_read h (fun x => x.getD "") fun _ _ => isText_of_read

theorem givenUnlessNull_map {x : Option (Option (Dictionary Value))}
    (h : found.map (Shape.nullable .dictionary).read = x.map .ok) :
    GivenUnlessNull .empty IsMap found (x.join.getD .empty) :=
  .of_read h (fun x => x.getD .empty) fun _ _ => isMap_of_read

/-- A field that holds nothing unless something is given. -/
theorem givenUnlessNull_some {shape : Shape} {is : Value → shape.Denote → Prop}
    {x : Option (Option shape.Denote)} (h : found.map (Shape.nullable shape).read = x.map .ok)
    (his : ∀ v y, shape.read v = .ok y → is v y) :
    GivenUnlessNull none (IsSome is) found x.join :=
  .of_read h id fun v y hread => ⟨y, rfl, his v y hread⟩

theorem givenUnlessNull_someText {x : Option (Option String)}
    (h : found.map (Shape.nullable .text).read = x.map .ok) :
    GivenUnlessNull none (IsSome IsText) found x.join :=
  givenUnlessNull_some h fun _ _ => isText_of_read

end Fields

theorem Message.carries_of_read {d : Dictionary Value} {m : Message}
    (h : codec.read (.object d.entries) = .ok m) : m.Carries d := by
  obtain ⟨⟨agentId, agentName, role, content, kind, round, timestamp, refs, confidence, ⟨⟩⟩, hread,
    rfl⟩ := map_eq_ok.1 h
  obtain ⟨hagentId, hagentName, hrole, hcontent, hkind, hround, htimestamp, hrefs, hconfidence,
    -⟩ := Fields.holds_of_read_object (by decide) hread
  exact {
    agentId := .of_read hagentId fun _ => isText_of_read
    agentName := .of_read hagentName fun _ => isText_of_read
    role := .of_read hrole fun _ => isLabel_of_read
    content := .of_read hcontent fun _ => isText_of_read
    kind := .of_read hkind (fun x => (x.map Label.ofName).getD MessageKind.standard)
      fun _ _ => isLabel_of_read
    round := .of_read hround (fun x => x.getD 1) fun _ _ => isWord32_of_read
    timestamp := givenUnlessNull_text htimestamp
    dataReferences := .of_read hrefs (fun x => x.getD []) fun _ _ => isValues_of_read
    confidence := .of_read hconfidence (fun x => x.getD Double.one)
      fun _ _ => Shape.read_double_eq_ok_iff.1 }

theorem StepSpec.carries_of_read {d : Dictionary Value} {s : StepSpec}
    (h : codec.read (.object d.entries) = .ok s) : s.Carries d := by
  obtain ⟨⟨stepId, toolName, arguments, output, rules, ⟨⟩⟩, hread, rfl⟩ := map_eq_ok.1 h
  obtain ⟨hstepId, htoolName, harguments, houtput, hrules, -⟩ :=
    Fields.holds_of_read_object (by decide) hread
  exact {
    stepId := .of_read hstepId fun _ => isText_of_read
    toolName := .of_read htoolName fun _ => isText_of_read
    arguments := givenUnlessNull_map harguments
    expectedOutput := givenUnlessNull_text houtput
    validationRules := .of_read hrules (fun x => x.getD []) fun _ _ => isTexts_of_read }

theorem Plan.carries_of_read {d : Dictionary Value} {p : Plan}
    (h : codec.read (.object d.entries) = .ok p) : p.Carries d := by
  obtain ⟨⟨id, objective, constraints, steps, symbol, reason, requester, createdAt, ⟨⟩⟩, hread,
    rfl⟩ := map_eq_ok.1 h
  obtain ⟨hid, hobjective, hconstraints, hsteps, hsymbol, hreason, hrequester, hcreatedAt, -⟩ :=
    Fields.holds_of_read_object (by decide) hread
  exact {
    id := .of_read hid fun _ => Shape.read_int64_eq_ok_iff.1
    objective := .of_read hobjective fun _ => isText_of_read
    constraints := givenUnlessNull_map hconstraints
    steps := .of_read hsteps (fun x => (x.getD []).map StepSpec.codec.ofData)
      fun _ _ => isSteps_of_read
    symbol := givenUnlessNull_someText hsymbol
    reason := .of_read hreason (fun x => (x.map Label.ofName).getD PlanReason.standard)
      fun _ _ => isLabel_of_read
    requester := givenUnlessNull_someText hrequester
    createdAt := givenUnlessNull_someText hcreatedAt }

theorem Report.carries_of_read {d : Dictionary Value} {r : Report}
    (h : codec.read (.object d.entries) = .ok r) : r.Carries d := by
  obtain ⟨⟨symbol, title, thesis, bullCase, bearCase, risks, assumptions, gap, price, conclusion,
    generatedAt, ⟨⟩⟩, hread, rfl⟩ := map_eq_ok.1 h
  obtain ⟨hsymbol, htitle, hthesis, hbull, hbear, hrisks, hassumptions, hgap, hprice, hconclusion,
    hgenerated, -⟩ := Fields.holds_of_read_object (by decide) hread
  exact {
    symbol := givenOr_text hsymbol
    title := givenOr_text htitle
    thesis := givenOr_text hthesis
    bullCase := givenOr_texts hbull
    bearCase := givenOr_texts hbear
    risks := givenOr_texts hrisks
    assumptions := givenOr_texts hassumptions
    valuationGap := givenUnlessNull_someText hgap
    targetPrice := givenUnlessNull_some hprice fun _ _ => isMap_of_read
    conclusion := givenOr_text hconclusion
    generatedAt := givenUnlessNull_someText hgenerated }

theorem StatusUpdate.carries_of_read {d : Dictionary Value} {p : StatusUpdate}
    (h : codec.read (.object d.entries) = .ok p) : p.Carries d := by
  obtain ⟨⟨message, ⟨⟩⟩, hread, rfl⟩ := map_eq_ok.1 h
  obtain ⟨hmessage, -⟩ := Fields.holds_of_read_object (by decide) hread
  exact ⟨givenUnlessNull_someText hmessage⟩

theorem ErrorReport.carries_of_read {d : Dictionary Value} {p : ErrorReport}
    (h : codec.read (.object d.entries) = .ok p) : p.Carries d := by
  obtain ⟨⟨message, ⟨⟩⟩, hread, rfl⟩ := map_eq_ok.1 h
  obtain ⟨hmessage, -⟩ := Fields.holds_of_read_object (by decide) hread
  exact ⟨givenUnlessNull_text hmessage⟩

theorem Closing.carries_of_read {d : Dictionary Value} {p : Closing}
    (h : codec.read (.object d.entries) = .ok p) : p.Carries d := by
  obtain ⟨⟨message, ⟨⟩⟩, hread, rfl⟩ := map_eq_ok.1 h
  obtain ⟨hmessage, -⟩ := Fields.holds_of_read_object (by decide) hread
  exact ⟨givenUnlessNull_someText hmessage⟩

theorem ActivityChange.carries_of_read {d : Dictionary Value} {p : ActivityChange}
    (h : codec.read (.object d.entries) = .ok p) : p.Carries d := by
  obtain ⟨⟨status, ⟨⟩⟩, hread, rfl⟩ := map_eq_ok.1 h
  obtain ⟨hstatus, -⟩ := Fields.holds_of_read_object (by decide) hread
  exact ⟨.of_read hstatus fun _ => isText_of_read⟩

theorem ToolStart.carries_of_read {d : Dictionary Value} {p : ToolStart}
    (h : codec.read (.object d.entries) = .ok p) : p.Carries d := by
  obtain ⟨⟨stepId, step, total, toolName, ⟨⟩⟩, hread, rfl⟩ := map_eq_ok.1 h
  obtain ⟨hstepId, hstep, htotal, htoolName, -⟩ := Fields.holds_of_read_object (by decide) hread
  exact {
    stepId := .of_read hstepId fun _ => isText_of_read
    step := givenUnlessNull_some hstep fun _ _ => isWord32_of_read
    total := givenUnlessNull_some htotal fun _ _ => isWord32_of_read
    toolName := givenUnlessNull_someText htoolName }

theorem ToolCompletion.carries_of_read {d : Dictionary Value} {p : ToolCompletion}
    (h : codec.read (.object d.entries) = .ok p) : p.Carries d := by
  obtain ⟨⟨stepId, quality, hasData, ⟨⟩⟩, hread, rfl⟩ := map_eq_ok.1 h
  obtain ⟨hstepId, hquality, hhasData, -⟩ := Fields.holds_of_read_object (by decide) hread
  exact {
    stepId := .of_read hstepId fun _ => isText_of_read
    quality := .of_read hquality (fun x => x.map Label.ofName)
      fun _ _ hlabel => ⟨_, rfl, isLabel_of_read hlabel⟩
    hasData := givenUnlessNull_some hhasData fun _ _ => Shape.read_flag_eq_ok_iff.1 }

theorem ToolFailure.carries_of_read {d : Dictionary Value} {p : ToolFailure}
    (h : codec.read (.object d.entries) = .ok p) : p.Carries d := by
  obtain ⟨⟨stepId, error, ⟨⟩⟩, hread, rfl⟩ := map_eq_ok.1 h
  obtain ⟨hstepId, herror, -⟩ := Fields.holds_of_read_object (by decide) hread
  exact {
    stepId := .of_read hstepId fun _ => isText_of_read
    error := givenUnlessNull_someText herror }

/-! ### Decoding -/

namespace Event

theorem carries_of_ofPayload {kind : EventKind} {d : Dictionary Value} {ev : Event}
    (h : ofPayload kind (.object d.entries) = .ok ev) :
    ev.kind? = some kind ∧ ev.Carries d := by
  cases kind <;> obtain ⟨p, hread, rfl⟩ := map_eq_ok.1 h <;> refine ⟨rfl, ?_⟩
  case status => exact StatusUpdate.carries_of_read hread
  case message => exact Message.carries_of_read hread
  case planGenerated => exact Plan.carries_of_read hread
  case toolStart => exact ToolStart.carries_of_read hread
  case toolComplete => exact ToolCompletion.carries_of_read hread
  case toolError => exact ToolFailure.carries_of_read hread
  case stateChange => exact ActivityChange.carries_of_read hread
  case error => exact ErrorReport.carries_of_read hread
  case report => exact Report.carries_of_read hread
  case finished => exact Closing.carries_of_read hread

end Event

/-- **Decoding follows the tables.**  An object is an event of a kind exactly if it
    obeys each rule of the kind; the event is of that kind and holds what the object
    says, and any problem is one with a payload of the type.  The steps of a plan
    are held to a table of their own. -/
theorem decoding_follows_grammar :
    (∀ (kind : EventKind) (d : Dictionary Value) (timestamp : Option String),
      let e : Envelope := { typeName := Named.name kind, payload := .object d.entries, timestamp }
      ((∃ ev, Event.ofEnvelope e = .ok ev) ↔ ∀ rule ∈ kind.grammar, rule.Admits d) ∧
        (∀ ev, Event.ofEnvelope e = .ok ev → ev.kind? = some kind ∧ ev.Carries d) ∧
        ∀ why, Event.ofEnvelope e = .error why →
          ∃ problem, why = .payload (Named.name kind) problem) ∧
      ∀ d : Dictionary Value,
        ((∃ s, StepSpec.codec.read (.object d.entries) = .ok s) ↔
            ∀ rule ∈ StepSpec.grammar, rule.Admits d) ∧
          ∀ s, StepSpec.codec.read (.object d.entries) = .ok s → s.Carries d := by
  refine ⟨fun kind d timestamp => ?_, fun d => ⟨StepSpec.exists_read_iff d, ?_⟩⟩
  · simp only [Event.ofEnvelope_object, mapError_eq_ok]
    refine ⟨Event.exists_ofPayload_iff kind d, fun ev => Event.carries_of_ofPayload, ?_⟩
    intro why h
    cases hread : Event.ofPayload kind (.object d.entries) with
    | ok ev =>
      rw [hread] at h
      cases h
    | error problem =>
      rw [hread] at h
      exact ⟨problem, (Except.error.inj h).symm⟩
  · intro s
    exact StepSpec.carries_of_read

end MeetingRoom
