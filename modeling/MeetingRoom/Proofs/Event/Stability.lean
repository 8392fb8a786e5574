/-
  MeetingRoom/Proofs/Event/Stability.lean
  =======================================
  **Events survive being written and read again.**

  An event is decoded once, at the edge, and from then on it is typed data; what
  the producer left out has been filled in, and names that were not known are
  labels.  Writing such data gives a payload that differs from the one that was
  read, but it decodes to the same event (`Event.ofEnvelope_envelope`), and the
  labels in it are the very strings that came (`Event.label_kept`).
-/
import MeetingRoom.Event.Envelope
import MeetingRoom.Proofs.Json.ReadBack

namespace MeetingRoom

open Json (Codec Fields Shape Value map_eq_ok mapError_eq_ok)

/-! ### Decoding by kind -/

namespace Event

theorem ofEnvelope_of_unlisted {e : Envelope}
    (h : (Named.ofName? e.typeName : Option EventKind) = none) :
    ofEnvelope e = .ok (.unknown e.typeName h) := by
  unfold ofEnvelope
  split
  · rfl
  · rename_i kind hkind
    rw [h] at hkind
    cases hkind

/-- An envelope of a known type is decoded by its kind; only a payload of null is
    replaced before. -/
theorem ofEnvelope_of_kind {e : Envelope} {kind : EventKind}
    (h : Named.ofName? e.typeName = some kind) :
    ∃ v, (e.payload ≠ .null → v = e.payload) ∧
      ofEnvelope e = (ofPayload kind v).mapError (.payload e.typeName) := by
  unfold ofEnvelope
  split
  · rename_i hnone
    rw [h] at hnone
    cases hnone
  · rename_i kind' hkind
    obtain rfl : kind' = kind := Option.some.inj (hkind.symm.trans h)
    refine ⟨_, fun hpayload => ?_, rfl⟩
    cases hp : e.payload with
    | null => exact absurd hp hpayload
    | flag _ | number _ | text _ | list _ | object _ => rfl

theorem typeName_of_ofPayload {kind : EventKind} {v : Value} {ev : Event}
    (h : ofPayload kind v = .ok ev) : ev.typeName = Named.name kind := by
  cases kind <;>
    (obtain ⟨x, _, rfl⟩ := map_eq_ok.1 h
     rfl)

/-- What a codec writes for a kind of events is decoded to the event again. -/
theorem ofEnvelope_write {α : Type} (kind : EventKind) (codec : Codec α) (make : α → Event)
    (hkind : ∀ v, ofPayload kind v = (codec.read v).map make)
    (hfaithful : codec.shape.faithful = true) (hnull : codec.shape.admitsNull = false) (x : α) :
    ofEnvelope { typeName := Named.name kind, payload := codec.write x } = .ok (make x) := by
  let e : Envelope := { typeName := Named.name kind, payload := codec.write x }
  obtain ⟨v, hv, hdecoded⟩ := ofEnvelope_of_kind (e := e) (Named.ofName?_name kind)
  have hwritten : v = codec.write x := hv (Shape.write_ne_null hnull _)
  rw [hdecoded, hwritten, hkind, Codec.stable_of_faithful hfaithful]
  rfl

/-- **An event is decoded again from what is written for it.** -/
theorem ofEnvelope_envelope (ev : Event) : ofEnvelope ev.envelope = .ok ev := by
  cases ev with
  | status p => exact ofEnvelope_write .status StatusUpdate.codec .status (fun _ => rfl) rfl rfl p
  | message p => exact ofEnvelope_write .message Message.codec .message (fun _ => rfl) rfl rfl p
  | planGenerated p =>
    exact ofEnvelope_write .planGenerated Plan.codec .planGenerated (fun _ => rfl) rfl rfl p
  | toolStart p =>
    exact ofEnvelope_write .toolStart ToolStart.codec .toolStart (fun _ => rfl) rfl rfl p
  | toolComplete p =>
    exact ofEnvelope_write .toolComplete ToolCompletion.codec .toolComplete (fun _ => rfl) rfl rfl p
  | toolError p =>
    exact ofEnvelope_write .toolError ToolFailure.codec .toolError (fun _ => rfl) rfl rfl p
  | stateChange p =>
    exact ofEnvelope_write .stateChange ActivityChange.codec .stateChange (fun _ => rfl) rfl rfl p
  | error p => exact ofEnvelope_write .error ErrorReport.codec .error (fun _ => rfl) rfl rfl p
  | report p => exact ofEnvelope_write .report Report.codec .report (fun _ => rfl) rfl rfl p
  | finished p => exact ofEnvelope_write .finished Closing.codec .finished (fun _ => rfl) rfl rfl p
  | unknown name h => exact ofEnvelope_of_unlisted (e := { typeName := name }) h

end Event

/-! ### Labels -/

/-- A text that came under the name of a field is written again under it, if the
    type keeps the field's text. -/
theorem member?_text_kept {α : Type} {fields : Fields} (hdistinct : fields.names.Nodup)
    {name key s : String} (ofData : fields.Denote → α) (toData : α → fields.Denote)
    {members : List (String × Value)} {x : α} (hfield : fields.holdsText key = true)
    (hkept : ∀ d, fields.text? key d = some s → fields.text? key (toData (ofData d)) = some s)
    (hread : ((Shape.record name fields).read (.object members)).map ofData = .ok x)
    (hmember : (Dictionary.ofList members).find? key = some (.text s)) :
    ((Shape.record name fields).write (toData x)).member? key = some (.text s) := by
  obtain ⟨d, hd, rfl⟩ := map_eq_ok.1 hread
  exact Fields.member?_write_of_text? hdistinct
    (hkept d (Fields.text?_of_read_object hdistinct hfield hd hmember))

theorem eq_some_some_of_text? {x : Option (Option String)} {s : String}
    (h : x.bind (Shape.nullable .text).text? = some s) : x = some (some s) := by
  obtain ⟨y, rfl, hy⟩ := Option.bind_eq_some_iff.1 h
  exact congrArg some hy

theorem Message.label_kept {key s : String} {members : List (String × Value)} {m : Message}
    (hkey : key ∈ ["role", "msg_type"]) (hread : codec.read (.object members) = .ok m)
    (hmember : (Dictionary.ofList members).find? key = some (.text s)) :
    (codec.write m).member? key = some (.text s) := by
  have hdistinct : fields.names.Nodup := by decide
  rcases List.mem_pair.1 hkey with rfl | rfl
  · refine member?_text_kept hdistinct codec.ofData codec.toData rfl ?_ hread hmember
    intro d hd
    have hrole : some d.2.2.1 = some s := hd
    show some (Label.name (Label.ofName d.2.2.1 : Role)) = some s
    rw [Label.name_ofName, hrole]
  · refine member?_text_kept hdistinct codec.ofData codec.toData rfl ?_ hread hmember
    intro d hd
    have hkind : d.2.2.2.2.1 = some (some s) := eq_some_some_of_text? hd
    show some ((d.2.2.2.2.1.join.map Label.ofName).getD MessageKind.standard).name = some s
    rw [hkind]
    exact congrArg some (Label.name_ofName s)

theorem Plan.label_kept {s : String} {members : List (String × Value)} {p : Plan}
    (hread : codec.read (.object members) = .ok p)
    (hmember : (Dictionary.ofList members).find? "trigger_reason" = some (.text s)) :
    (codec.write p).member? "trigger_reason" = some (.text s) := by
  have hdistinct : fields.names.Nodup := by decide
  refine member?_text_kept hdistinct codec.ofData codec.toData rfl ?_ hread hmember
  intro d hd
  have hreason : d.2.2.2.2.2.1 = some (some s) := eq_some_some_of_text? hd
  show some ((d.2.2.2.2.2.1.join.map Label.ofName).getD PlanReason.standard).name = some s
  rw [hreason]
  exact congrArg some (Label.name_ofName s)

theorem ToolCompletion.label_kept {s : String} {members : List (String × Value)}
    {p : ToolCompletion} (hread : codec.read (.object members) = .ok p)
    (hmember : (Dictionary.ofList members).find? "quality" = some (.text s)) :
    (codec.write p).member? "quality" = some (.text s) := by
  have hdistinct : fields.names.Nodup := by decide
  refine member?_text_kept hdistinct codec.ofData codec.toData rfl ?_ hread hmember
  intro d hd
  have hquality : d.2.1 = some (some s) := eq_some_some_of_text? hd
  show (d.2.1.join.map (Label.ofName : String → DataQuality)).map Label.name = some s
  rw [hquality]
  exact congrArg some (Label.name_ofName s)

namespace Event

def labelFields : Event → List String
  | .message _ => ["role", "msg_type"]
  | .planGenerated _ => ["trigger_reason"]
  | .toolComplete _ => ["quality"]
  | _ => []

theorem label_kept_of_ofPayload {kind : EventKind} {members : List (String × Value)} {ev : Event}
    (h : ofPayload kind (.object members) = .ok ev) {key s : String} (hkey : key ∈ ev.labelFields)
    (hmember : (Dictionary.ofList members).find? key = some (.text s)) :
    ev.payload.member? key = some (.text s) := by
  cases kind with
  | message =>
    obtain ⟨m, hread, rfl⟩ := map_eq_ok.1 h
    exact Message.label_kept hkey hread hmember
  | planGenerated =>
    obtain ⟨p, hread, rfl⟩ := map_eq_ok.1 h
    obtain rfl := List.mem_singleton.1 hkey
    exact Plan.label_kept hread hmember
  | toolComplete =>
    obtain ⟨p, hread, rfl⟩ := map_eq_ok.1 h
    obtain rfl := List.mem_singleton.1 hkey
    exact ToolCompletion.label_kept hread hmember
  | status | toolStart | toolError | stateChange | error | report | finished =>
    obtain ⟨p, _, rfl⟩ := map_eq_ok.1 h
    cases hkey

theorem typeName_of_ofEnvelope {e : Envelope} {ev : Event} (h : ofEnvelope e = .ok ev) :
    ev.typeName = e.typeName := by
  cases hkind : (Named.ofName? e.typeName : Option EventKind) with
  | none =>
    rw [ofEnvelope_of_unlisted hkind] at h
    obtain rfl := Except.ok.inj h
    rfl
  | some kind =>
    obtain ⟨v, _, hdecoded⟩ := ofEnvelope_of_kind hkind
    rw [hdecoded, mapError_eq_ok] at h
    rw [typeName_of_ofPayload h, Named.name_of_ofName? hkind]

theorem label_kept {e : Envelope} {ev : Event} (h : ofEnvelope e = .ok ev)
    {members : List (String × Value)} (hpayload : e.payload = .object members) {key s : String}
    (hkey : key ∈ ev.labelFields)
    (hmember : (Dictionary.ofList members).find? key = some (.text s)) :
    ev.payload.member? key = some (.text s) := by
  cases hkind : (Named.ofName? e.typeName : Option EventKind) with
  | none =>
    rw [ofEnvelope_of_unlisted hkind] at h
    obtain rfl := Except.ok.inj h
    cases hkey
  | some kind =>
    obtain ⟨v, hv, hdecoded⟩ := ofEnvelope_of_kind hkind
    have hobject : v = .object members := by
      rw [hv (by rw [hpayload]; simp), hpayload]
    rw [hdecoded, mapError_eq_ok, hobject] at h
    exact label_kept_of_ofPayload h hkey hmember

end Event

/-! ### The whole format -/

/-- **Encoding and decoding agree.**  Every event, in particular one that was
    decoded, is decoded again from the envelope that is built of it.  A decoded
    event has the type of its envelope, and each label that came as a text in an
    object is written as that text.  And every type of event data is read back
    from what is written of it. -/
theorem encoding_agrees_with_decoding :
    (∀ ev : Event, Event.ofEnvelope ev.envelope = .ok ev) ∧
      (∀ e ev, Event.ofEnvelope e = .ok ev →
        ev.typeName = e.typeName ∧
          ∀ members, e.payload = .object members → ∀ key ∈ ev.labelFields, ∀ s,
            (Dictionary.ofList members).find? key = some (.text s) →
              ev.payload.member? key = some (.text s)) ∧
      ((Label.codec : Codec Role).Stable ∧ (Label.codec : Codec MessageKind).Stable ∧
        (Label.codec : Codec PlanReason).Stable ∧ (Label.codec : Codec DataQuality).Stable ∧
        StepStatus.codec.Stable ∧ Message.codec.Stable ∧ StepSpec.codec.Stable ∧
        Plan.codec.Stable ∧ StepPosition.codec.Stable ∧ LiveStep.codec.Stable ∧
        Report.codec.Stable ∧ Envelope.codec.Stable ∧ StatusUpdate.codec.Stable ∧
        ToolStart.codec.Stable ∧ ToolCompletion.codec.Stable ∧ ToolFailure.codec.Stable ∧
        ActivityChange.codec.Stable ∧ ErrorReport.codec.Stable ∧ Closing.codec.Stable) := by
  refine ⟨Event.ofEnvelope_envelope, ?_, ?_⟩
  · intro e ev h
    refine ⟨Event.typeName_of_ofEnvelope h, ?_⟩
    intro members hpayload key hkey s hmember
    exact Event.label_kept h hpayload hkey hmember
  · and_intros <;> exact Codec.stable_of_faithful rfl

end MeetingRoom
