/-
  MeetingRoom/Proofs/Json/Alike.lean
  ==================================
  **Data that a reader does not tell apart.**

  A member that no field names is never looked at, and where null is allowed it
  says no more than leaving the member out.  Two values that differ in nothing
  else are alike (`Shape.Alike`).  What is read of them differs at most in that a
  field is null in one and absent in the other, and the problems are the same
  (`Shape.read_congr`).
-/
import MeetingRoom.Proofs.Json.Record

namespace MeetingRoom.Json

/-! ### What is read, without nulls -/

def Value.isNull : Value → Bool
  | .null => true
  | _ => false

/-- Null was read. -/
@[simp] def Shape.isNull : (shape : Shape) → shape.Denote → Bool
  | .nullable _ => Option.isNone
  | .anything => Value.isNull
  | _ => fun _ => false

/-- What a field holds after each value was changed and nulls were dropped. -/
@[simp] def Presence.tidy {α : Type} (f : α → α) (isNull : α → Bool) :
    (presence : Presence) → presence.Holds α → presence.Holds α
  | .required, x => f x
  | .optional, x => (x.map f).filter (!isNull ·)
  | .optionalByName, x => (x.map f).filter (!isNull ·)

@[simp] theorem filter_true {α : Type} (x : Option α) : x.filter (fun _ => true) = x := by
  cases x <;> rfl

@[simp] theorem join_filter_isSome {α : Type} (x : Option (Option α)) :
    (x.filter (·.isSome)).join = x.join := by
  rcases x with _ | _ | x <;> rfl

mutual

/-- The same without nulls in fields that may be left out. -/
@[simp] def Shape.plain : (shape : Shape) → shape.Denote → shape.Denote
  | .text, x => x
  | .flag, x => x
  | .word32, x => x
  | .word64, x => x
  | .int64, x => x
  | .double, x => x
  | .anything, x => x
  | .dictionary, x => x
  | .choice _, x => x
  | .nullable inner, x => x.map inner.plain
  | .listOf item, xs => xs.map item.plain
  | .record _ fields, x => fields.plain x

@[simp] def Fields.plain : (fields : Fields) → fields.Denote → fields.Denote
  | .nil, _ => ()
  | .cons _ presence shape rest, (x, more) =>
    (presence.tidy shape.plain shape.isNull x, rest.plain more)

end

/-! ### Alike -/

mutual

def Shape.Alike : Shape → Value → Value → Prop
  | .nullable inner, v, w => v = w ∨ v ≠ .null ∧ w ≠ .null ∧ inner.Alike v w
  | .listOf item, v, w =>
    v = w ∨ ∃ vs ws, v = .list vs ∧ w = .list ws ∧ List.Forall₂ item.Alike vs ws
  | .record _ fields, v, w =>
    v = w ∨ ∃ d e : Dictionary Value, v = .object d.entries ∧ w = .object e.entries ∧
      fields.Alike d.find? e.find?
  | _, v, w => v = w

/-- Under the name of each field there is something alike, or both times nothing
    that counts. -/
def Fields.Alike : Fields → (String → Option Value) → (String → Option Value) → Prop
  | .nil, _, _ => True
  | .cons name presence shape rest, look, look' =>
    (Option.Rel shape.Alike (look name) (look' name) ∨
      presence ≠ .required ∧ shape.admitsNull = true ∧ Vacant (look name) ∧ Vacant (look' name)) ∧
    rest.Alike look look'

end

theorem Shape.alike_refl (shape : Shape) (v : Value) : shape.Alike v v := by
  cases shape with
  | nullable _ | listOf _ | record _ _ => exact .inl rfl
  | text | flag | word32 | word64 | int64 | double | anything | dictionary | choice _ => rfl

/-! ### One field -/

/-- What is read of alike values is the same, up to nulls. -/
def Shape.Congruent (shape : Shape) : Prop :=
  ∀ v w, shape.Alike v w → (shape.read v).map shape.plain = (shape.read w).map shape.plain

def Fields.Congruent : Fields → Prop
  | .nil => True
  | .cons _ _ shape rest => shape.Congruent ∧ rest.Congruent

section Field

variable {shape : Shape} {found found' : Option Value} {v w : Value}

theorem Shape.read_null (h : shape.admitsNull = true) :
    ∃ x, shape.read .null = .ok x ∧ shape.isNull (shape.plain x) = true := by
  cases shape with
  | anything => exact ⟨.null, rfl, rfl⟩
  | nullable _ => exact ⟨none, rfl, rfl⟩
  | text | flag | word32 | word64 | int64 | double | dictionary | choice _ | listOf _
  | record _ _ => cases h

theorem Shape.Congruent.problem?_eq (h : shape.Congruent) (halike : shape.Alike v w) :
    problem? (shape.read v) = problem? (shape.read w) := by
  have heq := congrArg problem? (h v w halike)
  rwa [problem?_map, problem?_map] at heq

theorem Shape.Congruent.bind_problem?_eq (h : shape.Congruent)
    (halike : Option.Rel shape.Alike found found') :
    (found.bind fun v => problem? (shape.read v)) =
      found'.bind fun v => problem? (shape.read v) := by
  cases halike with
  | none => rfl
  | some hvw => exact h.problem?_eq hvw

theorem Shape.Congruent.plain_eq (h : shape.Congruent) (halike : shape.Alike v w)
    {x y : shape.Denote} (hx : shape.read v = .ok x) (hy : shape.read w = .ok y) :
    shape.plain x = shape.plain y := by
  have heq := h v w halike
  rw [hx, hy] at heq
  exact Except.ok.inj heq

theorem problem?_vacant (h : shape.admitsNull = true) (hfound : Vacant found) :
    (found.bind fun v => problem? (shape.read v)) = none := by
  rcases hfound with rfl | rfl
  · rfl
  · obtain ⟨x, hx, _⟩ := Shape.read_null h
    rw [Option.bind_some, hx, problem?_ok]

theorem filter_plain_vacant (h : shape.admitsNull = true) (hfound : Vacant found)
    {x : Option shape.Denote} (hx : found.map shape.read = x.map .ok) :
    (x.map shape.plain).filter (!shape.isNull ·) = none := by
  rcases hfound with rfl | rfl
  · obtain rfl : x = none := by simpa [eq_comm] using hx
    rfl
  · obtain ⟨y, hy, hnull⟩ := Shape.read_null h
    obtain rfl : x = some y := by
      cases x <;> simp_all
    rw [Option.map_some, Option.filter_some, hnull]
    rfl

/-- A field holds the same of members that are alike. -/
theorem Presence.tidy_eq (hshape : shape.Congruent) {presence : Presence}
    (halike : Option.Rel shape.Alike found found' ∨
      presence ≠ .required ∧ shape.admitsNull = true ∧ Vacant found ∧ Vacant found')
    {x y : presence.Holds shape.Denote} (hx : found.map shape.read = (presence.given x).map .ok)
    (hy : found'.map shape.read = (presence.given y).map .ok) :
    presence.tidy shape.plain shape.isNull x = presence.tidy shape.plain shape.isNull y := by
  rcases halike with hrel | ⟨hpresence, hnull, hfound, hfound'⟩
  · cases hrel with
    | none =>
      cases presence with
      | required => cases hx
      | optional | optionalByName =>
        obtain rfl : x = none := Option.map_eq_none_iff.1 hx.symm
        obtain rfl : y = none := Option.map_eq_none_iff.1 hy.symm
        rfl
    | some hvw =>
      obtain ⟨x', hx', hreadx⟩ := Option.map_eq_some_iff.1 hx.symm
      obtain ⟨y', hy', hready⟩ := Option.map_eq_some_iff.1 hy.symm
      have hplain := hshape.plain_eq hvw hreadx.symm hready.symm
      cases presence with
      | required =>
        obtain rfl := Option.some.inj hx'
        obtain rfl := Option.some.inj hy'
        exact hplain
      | optional | optionalByName =>
        obtain rfl : x = some x' := hx'
        obtain rfl : y = some y' := hy'
        exact congrArg (fun z => (some z).filter (!shape.isNull ·)) hplain
  · cases presence with
    | required => exact absurd rfl hpresence
    | optional | optionalByName =>
      exact (filter_plain_vacant hnull hfound hx).trans (filter_plain_vacant hnull hfound' hy).symm

end Field

/-! ### Records -/

namespace Fields

variable {look look' : String → Option Value}

theorem bind_flaw?_eq : {fields : Fields} → fields.Congruent → fields.Alike look look' →
    (key : String) → (look key).bind (fields.flaw? key) = (look' key).bind (fields.flaw? key)
  | .nil, _, _, key => by cases look key <;> cases look' key <;> rfl
  | .cons name presence shape rest, ⟨hshape, hcongruent⟩, ⟨hfield, halike⟩, key => by
    by_cases h : name = key
    · subst h
      simp only [flaw?, if_true]
      rcases hfield with hrel | ⟨-, hnull, hfound, hfound'⟩
      · exact hshape.bind_problem?_eq hrel
      · rw [problem?_vacant hnull hfound, problem?_vacant hnull hfound']
    · simp only [flaw?, if_neg h]
      exact bind_flaw?_eq hcongruent halike key

theorem eq_none_iff_of_rel {α β : Type} {r : α → β → Prop} {x : Option α} {y : Option β}
    (h : Option.Rel r x y) : x = none ↔ y = none := by
  cases h <;> simp

theorem missing?_eq : {fields : Fields} → fields.Alike look look' →
    fields.missing? look = fields.missing? look'
  | .nil, _ => rfl
  | .cons name presence shape rest, ⟨hfield, halike⟩ => by
    rw [missing?, missing?, missing?_eq halike]
    rcases hfield with hrel | ⟨hpresence, -⟩
    · simp only [eq_none_iff_of_rel hrel]
    · rw [if_neg fun h => hpresence h.1, if_neg fun h => hpresence h.1]

theorem plain_eq : {fields : Fields} → fields.Congruent → fields.Alike look look' →
    {x y : fields.Denote} → fields.Holds look x → fields.Holds look' y →
    fields.plain x = fields.plain y
  | .nil, _, _, _, _, _, _ => rfl
  | .cons _ _ _ _, ⟨hshape, hcongruent⟩, ⟨hfield, halike⟩, (x, more), (y, more'), ⟨hx, hmore⟩,
      ⟨hy, hmore'⟩ => by
    rw [plain, plain, Presence.tidy_eq hshape hfield hx hy, plain_eq hcongruent halike hmore hmore']

/-- **Alike objects** are read as the same record up to nulls, or with the same
    problem. -/
theorem read_object_congr {fields : Fields} (hdistinct : fields.names.Nodup)
    (hcongruent : fields.Congruent) (name : String) {d e : Dictionary Value}
    (halike : fields.Alike d.find? e.find?) :
    ((Shape.record name fields).read (.object d.entries)).map fields.plain =
      ((Shape.record name fields).read (.object e.entries)).map fields.plain := by
  have hproblem := problem?_read_object_congr hdistinct name (bind_flaw?_eq hcongruent halike)
    (missing?_eq halike)
  cases hd : (Shape.record name fields).read (.object d.entries) with
  | error why =>
    rw [hd, problem?_error] at hproblem
    rw [problem?_eq_some_iff.1 hproblem.symm]
  | ok x =>
    rw [hd, problem?_ok] at hproblem
    obtain ⟨y, hy⟩ := problem?_eq_none_iff.1 hproblem.symm
    rw [hy]
    exact congrArg Except.ok (plain_eq hcongruent halike
      (holds_of_read_object hdistinct hd) (holds_of_read_object hdistinct hy))

end Fields

/-! ### All shapes -/

theorem mapM_congr {ε α β γ : Type} {f : α → Except ε β} {g : β → γ} {as bs : List α}
    (h : List.Forall₂ (fun a b => (f a).map g = (f b).map g) as bs) :
    (as.mapM f).map (List.map g) = (bs.mapM f).map (List.map g) := by
  have hcons : ∀ a as, ((a :: as).mapM f).map (List.map g) =
      ((f a).map g).bind fun y => ((as.mapM f).map (List.map g)).map (y :: ·) := by
    intro a as
    rw [List.mapM_cons]
    cases f a <;> cases as.mapM f <;> rfl
  induction h with
  | nil => rfl
  | cons hab _ ih => rw [hcons, hcons, hab, ih]

mutual

/-- **Alike values are read alike**: as the same, up to nulls, or with the same
    problem. -/
theorem Shape.read_congr : (shape : Shape) → shape.faithful = true → shape.Congruent
  | .text, _ | .flag, _ | .word32, _ | .word64, _ | .int64, _ | .double, _ | .anything, _
  | .dictionary, _ | .choice _, _ => by
    rintro v w rfl
    rfl
  | .nullable inner, h => by
    simp only [Shape.faithful, Bool.and_eq_true] at h
    rintro v w (rfl | ⟨hv, hw, hinner⟩)
    · rfl
    · have hread : ∀ x : Except Problem inner.Denote,
          (x.map some).map (Option.map inner.plain) = (x.map inner.plain).map some := by
        intro x
        cases x <;> rfl
      show Except.map (Option.map inner.plain) _ = Except.map (Option.map inner.plain) _
      rw [Shape.read_nullable_of_ne_null hv, Shape.read_nullable_of_ne_null hw, hread, hread,
        inner.read_congr h.2 v w hinner]
  | .listOf item, h => by
    rintro v w (rfl | ⟨vs, ws, rfl, rfl, hitems⟩)
    · rfl
    · exact mapM_congr (hitems.imp fun v w => item.read_congr h v w)
  | .record name fields, h => by
    rintro v w (rfl | ⟨d, e, rfl, rfl, halike⟩)
    · rfl
    · exact Fields.read_object_congr (fields.nodup_names_of_faithful h) (fields.read_congr h) name
        halike

theorem Fields.read_congr : (fields : Fields) → fields.faithful = true → fields.Congruent
  | .nil, _ => trivial
  | .cons _ _ shape rest, h => by
    simp only [Fields.faithful, Bool.and_eq_true] at h
    exact ⟨shape.read_congr h.1.2, rest.read_congr h.2⟩

end

end MeetingRoom.Json
