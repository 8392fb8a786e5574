/-
  MeetingRoom/Label.lean
  ======================
  **Labels: a closed list of known names, open to new ones.**

  Roles, kinds of messages, reasons and data qualities travel as names.  The
  known names are a type of their own; a name that is not known is kept as it
  is, and by its proof is really unknown.  So every name is exactly one label
  (`Label.name_ofName`, `Label.ofName_name`).
-/
import MeetingRoom.Json.Codec

namespace MeetingRoom

/-! ### Known names -/

/-- A type whose values have distinct names. -/
class Named (α : Type) where
  all : List α
  name : α → String
  mem_all : ∀ x, x ∈ all
  name_injective : ∀ x y, name x = name y → x = y

namespace Named

variable {α : Type} [Named α]

def ofName? (s : String) : Option α :=
  (all : List α).find? fun x => name x == s

theorem ofName?_name (x : α) : ofName? (name x) = some x := by
  unfold ofName?
  cases h : (all : List α).find? fun y => name y == name x with
  | none =>
    have := List.find?_eq_none.1 h x (mem_all x)
    simp at this
  | some y =>
    have := List.find?_some h
    rw [name_injective y x (by simpa using this)]

theorem name_of_ofName? {s : String} {x : α} (h : ofName? s = some x) : name x = s := by
  simpa using List.find?_some h

end Named

/-! ### Labels -/

/-- A known value, or a name that no known value has. -/
inductive Label (α : Type) [Named α] where
  | known (value : α)
  | other (name : String) (unknown : (Named.ofName? name : Option α) = none)
deriving DecidableEq

namespace Label

variable {α : Type} [Named α]

def ofName (s : String) : Label α :=
  match h : (Named.ofName? s : Option α) with
  | some x => .known x
  | none => .other s h

def name : Label α → String
  | .known x => Named.name x
  | .other s _ => s

/-- Whether the name is not a known one. -/
def isOther : Label α → Bool
  | .known _ => false
  | .other _ _ => true

theorem name_ofName (s : String) : (ofName s : Label α).name = s := by
  unfold ofName
  split
  · rename_i x h
    exact Named.name_of_ofName? h
  · rfl

theorem ofName_name (label : Label α) : ofName label.name = label := by
  cases label with
  | known x =>
    have h : (Named.ofName? (Named.name x) : Option α) = some x := Named.ofName?_name x
    unfold ofName name
    split
    · rename_i y hy
      rw [hy] at h
      cases h
      rfl
    · rename_i hy
      rw [hy] at h
      cases h
  | other s hs =>
    unfold ofName name
    split
    · rename_i y hy
      rw [hs] at hy
      cases hy
    · rfl

/-- A label travels as its name. -/
def codec : Json.Codec (Label α) where
  shape := .text
  ofData := ofName
  toData := name
  ofData_toData := ofName_name

end Label

end MeetingRoom
