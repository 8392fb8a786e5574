/-
  MeetingRoom/Proofs/Event/Compatibility.lean
  ===========================================
  **Payloads of older and newer producers.**

  A newer producer may add members that no table lists, and an older one may
  write null where another leaves a member out.  Neither changes what is decoded,
  nor which problem is reported (`Event.ofPayload_congr`).  Types of events that
  are not known are kept, whatever comes with them.
-/
import MeetingRoom.Proofs.Event.Grammar
import MeetingRoom.Proofs.Json.Alike

namespace MeetingRoom

open Json (Codec Fields Shape Vacant Value)

/-! ### Objects that say the same -/

/-- What is found under the name of a rule says the same both times; `step` tells
    which elements of a plan's steps do. -/
inductive FieldRule.Agree (rule : FieldRule) (step : Value → Value → Prop) :
    Option Value → Option Value → Prop
  | same (found : Option Value) : Agree rule step found found
  | vacant {found found' : Option Value} : rule.policy = .tolerant → Vacant found →
      Vacant found' → Agree rule step found found'
  | steps {items items' : List Value} : rule.type = .steps → List.Forall₂ step items items' →
      Agree rule step (some (.list items)) (some (.list items'))

/-- The objects say the same under each name that the table lists; of other names
    nothing is said. -/
def AgreeOn (rules : List FieldRule) (step : Value → Value → Prop) (d e : Dictionary Value) :
    Prop :=
  ∀ rule ∈ rules, rule.Agree step (d.find? rule.name) (e.find? rule.name)

inductive StepSpec.Agree : Value → Value → Prop
  | same (v : Value) : Agree v v
  | object {d e : Dictionary Value} : AgreeOn grammar Eq d e →
      Agree (.object d.entries) (.object e.entries)

def EventKind.Agree (kind : EventKind) (d e : Dictionary Value) : Prop :=
  AgreeOn kind.grammar StepSpec.Agree d e

/-- A member that changes nothing when it is added: no rule names it, or it is a
    null that is tolerated. -/
def Negligible (rules : List FieldRule) (d : Dictionary Value) (name : String) (v : Value) : Prop :=
  name ∉ rules.map FieldRule.name ∨
    v = .null ∧ d.find? name = none ∧ ∃ rule ∈ rules, rule.name = name ∧ rule.policy = .tolerant

theorem Negligible.agreeOn {rules : List FieldRule} (hdistinct : (rules.map FieldRule.name).Nodup)
    {d : Dictionary Value} {name : String} {v : Value} (h : Negligible rules d name v)
    (step : Value → Value → Prop) : AgreeOn rules step d (d.insert name v) := by
  intro rule hrule
  rw [Dictionary.find?_insert]
  by_cases hname : name = rule.name
  · rw [if_pos hname]
    rcases h with hunlisted | ⟨rfl, hd, other, hother, rfl, htolerant⟩
    · exact absurd (hname ▸ List.mem_map_of_mem hrule) hunlisted
    · obtain rfl := List.inj_on_of_nodup_map hdistinct hother hrule hname
      exact .vacant htolerant (.inl hd) (.inr rfl)
  · rw [if_neg hname]
    exact .same _

/-- The steps of a plan may be replaced by steps that agree with them. -/
theorem agree_insert_steps {d : Dictionary Value} {items items' : List Value}
    (hd : d.find? "steps" = some (.list items)) (h : List.Forall₂ StepSpec.Agree items items') :
    EventKind.planGenerated.Agree d (d.insert "steps" (.list items')) := by
  intro rule hrule
  rw [Dictionary.find?_insert]
  by_cases hname : "steps" = rule.name
  · have hsteps : (⟨"steps", .tolerant, .steps⟩ : FieldRule) ∈ EventKind.planGenerated.grammar := by
      simp [EventKind.grammar]
    obtain rfl := List.inj_on_of_nodup_map EventKind.planGenerated.nodup_names_grammar hsteps hrule
      hname
    rw [if_pos rfl, hd]
    exact .steps rfl h
  · rw [if_neg hname]
    exact .same _

/-! ### They are alike for the reader -/

/-- What agrees under the name of a rule is alike for the rule's field. -/
theorem FieldRule.Agree.alike {rule : FieldRule} {step : Value → Value → Prop}
    {found found' : Option Value} (hstep : ∀ v w, step v w → StepSpec.codec.shape.Alike v w)
    (h : rule.Agree step found found') :
    Option.Rel (rule.policy.around rule.type.shape).Alike found found' ∨
      rule.policy.presence ≠ .required ∧ (rule.policy.around rule.type.shape).admitsNull = true ∧
        Vacant found ∧ Vacant found' := by
  cases h with
  | same =>
    refine .inl ?_
    cases found with
    | none => exact .none
    | some v => exact .some (Shape.alike_refl _ v)
  | vacant htolerant hfound hfound' =>
    rw [htolerant]
    exact .inr ⟨by simp [FieldPolicy.presence], rfl, hfound, hfound'⟩
  | @steps items items' htype hitems =>
    have hlist : (FieldType.shape .steps).Alike (.list items) (.list items') :=
      .inr ⟨items, items', rfl, rfl, hitems.imp hstep⟩
    rw [htype]
    refine .inl (.some ?_)
    cases rule.policy with
    | required | defaulted => exact hlist
    | tolerant => exact .inr ⟨by simp, by simp, hlist⟩

theorem AgreeOn.alike {step : Value → Value → Prop}
    (hstep : ∀ v w, step v w → StepSpec.codec.shape.Alike v w) {d e : Dictionary Value} :
    (rules : List FieldRule) → AgreeOn rules step d e →
      (FieldRule.fields rules).Alike d.find? e.find?
  | [], _ => trivial
  | rule :: rest, h =>
    ⟨(h rule List.mem_cons_self).alike hstep,
      AgreeOn.alike hstep rest fun other hother => h other (List.mem_cons_of_mem _ hother)⟩

theorem StepSpec.Agree.alike (v w : Value) (h : StepSpec.Agree v w) :
    StepSpec.codec.shape.Alike v w := by
  cases h with
  | same => exact Shape.alike_refl _ v
  | @object d e h =>
    refine .inr ⟨d, e, rfl, rfl, AgreeOn.alike ?_ grammar h⟩
    rintro v _ rfl
    exact Shape.alike_refl _ v

/-! ### Nulls leave no trace in events -/

/-- What the type makes of a null is what it makes of an absent field. -/
def Json.Codec.IgnoresNulls {α : Type} (codec : Codec α) : Prop :=
  ∀ x, codec.ofData (codec.shape.plain x) = codec.ofData x

theorem StatusUpdate.ignoresNulls : StatusUpdate.codec.IgnoresNulls := by
  rintro ⟨message, ⟨⟩⟩
  simp [codec, fields]

theorem ErrorReport.ignoresNulls : ErrorReport.codec.IgnoresNulls := by
  rintro ⟨message, ⟨⟩⟩
  simp [codec, fields]

theorem Closing.ignoresNulls : Closing.codec.IgnoresNulls := by
  rintro ⟨message, ⟨⟩⟩
  simp [codec, fields]

theorem ActivityChange.ignoresNulls : ActivityChange.codec.IgnoresNulls := by
  rintro ⟨status, ⟨⟩⟩
  simp [codec, fields]

theorem ToolStart.ignoresNulls : ToolStart.codec.IgnoresNulls := by
  rintro ⟨stepId, step, total, toolName, ⟨⟩⟩
  simp [codec, fields]

theorem ToolCompletion.ignoresNulls : ToolCompletion.codec.IgnoresNulls := by
  rintro ⟨stepId, quality, hasData, ⟨⟩⟩
  simp [codec, fields]

theorem ToolFailure.ignoresNulls : ToolFailure.codec.IgnoresNulls := by
  rintro ⟨stepId, error, ⟨⟩⟩
  simp [codec, fields]

theorem Message.ignoresNulls : Message.codec.IgnoresNulls := by
  rintro ⟨agentId, agentName, role, content, kind, round, timestamp, refs, confidence, ⟨⟩⟩
  simp [codec, fields]

theorem Report.ignoresNulls : Report.codec.IgnoresNulls := by
  rintro ⟨symbol, title, thesis, bullCase, bearCase, risks, assumptions, gap, price, conclusion,
    generatedAt, ⟨⟩⟩
  simp [codec, fields]

theorem StepSpec.ignoresNulls : StepSpec.codec.IgnoresNulls := by
  rintro ⟨stepId, toolName, arguments, output, rules, ⟨⟩⟩
  simp [codec, fields]

theorem Plan.ignoresNulls : Plan.codec.IgnoresNulls := by
  rintro ⟨id, objective, constraints, steps, symbol, reason, requester, createdAt, ⟨⟩⟩
  -- the steps may hold nulls of their own
  have hstep : StepSpec.codec.ofData ∘ StepSpec.codec.shape.plain = StepSpec.codec.ofData :=
    funext StepSpec.ignoresNulls
  rcases steps with _ | _ | steps <;> simp [codec, fields, hstep]

theorem EventKind.make_plain (kind : EventKind) (x : kind.fields.Denote) :
    kind.make (kind.fields.plain x) = kind.make x := by
  cases kind with
  | status => exact congrArg Event.status (StatusUpdate.ignoresNulls x)
  | message => exact congrArg Event.message (Message.ignoresNulls x)
  | planGenerated => exact congrArg Event.planGenerated (Plan.ignoresNulls x)
  | toolStart => exact congrArg Event.toolStart (ToolStart.ignoresNulls x)
  | toolComplete => exact congrArg Event.toolComplete (ToolCompletion.ignoresNulls x)
  | toolError => exact congrArg Event.toolError (ToolFailure.ignoresNulls x)
  | stateChange => exact congrArg Event.stateChange (ActivityChange.ignoresNulls x)
  | error => exact congrArg Event.error (ErrorReport.ignoresNulls x)
  | report => exact congrArg Event.report (Report.ignoresNulls x)
  | finished => exact congrArg Event.finished (Closing.ignoresNulls x)

theorem Event.ofPayload_congr {kind : EventKind} {d e : Dictionary Value} (h : kind.Agree d e) :
    ofPayload kind (.object d.entries) = ofPayload kind (.object e.entries) := by
  have hplain : ∀ v, ofPayload kind v =
      (((Shape.record kind.recordName kind.fields).read v).map
        kind.fields.plain).map kind.make := by
    intro v
    rw [ofPayload_eq]
    cases (Shape.record kind.recordName kind.fields).read v with
    | error why => rfl
    | ok x => exact congrArg Except.ok (kind.make_plain x).symm
  have hcongruent : kind.fields.Congruent := by
    cases kind <;> exact Fields.read_congr _ rfl
  rw [hplain, hplain, Fields.read_object_congr kind.nodup_names hcongruent kind.recordName
    (AgreeOn.alike StepSpec.Agree.alike kind.grammar h)]

/-! ### Envelopes -/

namespace Event

theorem ofEnvelope_null (typeName : String) (timestamp : Option String) :
    ofEnvelope { typeName, payload := .null, timestamp } =
      ofEnvelope { typeName, payload := .object [], timestamp } := rfl

/-- A payload that says nothing: it is absent, null or an empty object. -/
def blankPayloads : List (Option Value) := [none, some .null, some (.object [])]

theorem ofEnvelope_of_blank {payload : Option Value} (h : payload ∈ blankPayloads)
    (typeName : String) (timestamp : Option (Option String)) :
    ofEnvelope (Envelope.codec.ofData (typeName, payload, timestamp, ())) =
      ofEnvelope { typeName, timestamp := timestamp.join } := by
  simp only [blankPayloads, List.mem_cons, List.not_mem_nil, or_false] at h
  rcases h with rfl | rfl | rfl
  · rfl
  · rfl
  · exact (ofEnvelope_null typeName timestamp.join).symm

theorem decode_of_parse {frame : String} {x : Envelope.fields.Denote}
    (h : Envelope.codec.shape.parse frame = .ok x) :
    decode frame = ofEnvelope (Envelope.codec.ofData x) := by
  rw [decode, Codec.parse, h]
  rfl

theorem ofEnvelope_of_forall_ne {e : Envelope}
    (h : ∀ kind : EventKind, Named.name kind ≠ e.typeName) :
    ∃ unlisted, ofEnvelope e = .ok (.unknown e.typeName unlisted) := by
  have hunlisted : (Named.ofName? e.typeName : Option EventKind) = none := by
    rw [Option.eq_none_iff_forall_ne_some]
    intro kind hkind
    exact h kind (Named.name_of_ofName? hkind)
  exact ⟨hunlisted, ofEnvelope_of_unlisted hunlisted⟩

end Event

/-- **Decoding is compatible with producers of other versions.**  Objects that
    agree on what the table of a kind lists give the same outcome, whether it is an
    event or a problem; negligible members keep them in agreement, in the payload
    and in the steps of a plan.  Frames that differ only in how their payload is
    blank are decoded to the same.  An event of a type that is not known is kept
    under its type, and any event has the type of its envelope. -/
theorem decoding_is_compatible :
    (∀ (kind : EventKind) (d e : Dictionary Value) (timestamp : Option String), kind.Agree d e →
        Event.ofEnvelope { typeName := Named.name kind, payload := .object d.entries, timestamp } =
          Event.ofEnvelope
            { typeName := Named.name kind, payload := .object e.entries, timestamp }) ∧
      (∀ (kind : EventKind) d name v, Negligible kind.grammar d name v →
        kind.Agree d (d.insert name v)) ∧
      (∀ d items items', d.find? "steps" = some (.list items) →
        List.Forall₂ StepSpec.Agree items items' →
          EventKind.planGenerated.Agree d (d.insert "steps" (.list items'))) ∧
      (∀ d name v, Negligible StepSpec.grammar d name v →
        StepSpec.Agree (.object d.entries) (.object (d.insert name v).entries)) ∧
      (∀ typeName timestamp, Event.ofEnvelope { typeName, payload := .null, timestamp } =
        Event.ofEnvelope { typeName, payload := .object [], timestamp }) ∧
      (∀ frame frame' typeName timestamp, ∀ payload ∈ Event.blankPayloads,
        ∀ payload' ∈ Event.blankPayloads,
          Envelope.codec.shape.parse frame = .ok (typeName, payload, timestamp, ()) →
          Envelope.codec.shape.parse frame' = .ok (typeName, payload', timestamp, ()) →
            Event.decode frame = Event.decode frame') ∧
      (∀ e : Envelope, (∀ kind : EventKind, Named.name kind ≠ e.typeName) →
        ∃ unlisted, Event.ofEnvelope e = .ok (.unknown e.typeName unlisted)) ∧
      ∀ e ev, Event.ofEnvelope e = .ok ev → ev.typeName = e.typeName := by
  refine ⟨?_, ?_, ?_, ?_, Event.ofEnvelope_null, ?_, ?_, ?_⟩
  · intro kind d e timestamp h
    rw [Event.ofEnvelope_object, Event.ofEnvelope_object, Event.ofPayload_congr h]
  · intro kind d name v h
    exact h.agreeOn kind.nodup_names_grammar StepSpec.Agree
  · intro d items items'
    exact agree_insert_steps
  · intro d name v h
    exact .object (h.agreeOn (by decide) Eq)
  · intro frame frame' typeName timestamp payload hpayload payload' hpayload' hframe hframe'
    rw [Event.decode_of_parse hframe, Event.decode_of_parse hframe',
      Event.ofEnvelope_of_blank hpayload, Event.ofEnvelope_of_blank hpayload']
  · intro e
    exact Event.ofEnvelope_of_forall_ne
  · intro e ev
    exact Event.typeName_of_ofEnvelope

end MeetingRoom
