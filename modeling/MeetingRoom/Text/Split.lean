/-
  MeetingRoom/Text/Split.lean
  ===========================
  **Cutting texts at separators.**

  `pieces` cuts at every separator, so there is always one piece more than
  there are separators; `cut` cuts at the first one only.
-/
namespace MeetingRoom.Text

def pieces (sep : Char → Bool) : List Char → List (List Char)
  | [] => [[]]
  | c :: rest =>
    if sep c then [] :: pieces sep rest
    else match pieces sep rest with
      | p :: ps => (c :: p) :: ps
      | [] => [[c]]

/-- What stands before the first separator and, if there is one, what stands
    after it. -/
def cut (sep : Char → Bool) (cs : List Char) : List Char × Option (List Char) :=
  match cs.dropWhile (fun c => !sep c) with
  | [] => (cs, none)
  | _ :: rest => (cs.takeWhile fun c => !sep c, some rest)

theorem cut_of_none (sep : Char → Bool) (cs : List Char) (h : ∀ c ∈ cs, sep c = false) :
    cut sep cs = (cs, none) := by
  have : cs.dropWhile (fun c => !sep c) = [] := by
    induction cs with
    | nil => rfl
    | cons c rest ih =>
      simp only [List.dropWhile_cons, h c List.mem_cons_self, Bool.not_false, if_true]
      exact ih fun x hx => h x (List.mem_cons_of_mem _ hx)
  simp [cut, this]

end MeetingRoom.Text
