/-
  MeetingRoom/Proofs/Session/History.lean
  =======================================
  **Runs of a session, and the events a session remembers.**

  A session forgets everything when a symbol is picked, so its state after a
  run depends on the actions after the last pick alone.  Of these only the
  events touch the plans and the live steps; every other action rewrites the
  transcript, the activity flag and the status line at most (`apply_frame`).

  `run_induction` is the one induction along a run that the properties of
  reachable sessions are proved by: what holds of a fresh session without
  events, and is kept by an action that is no event and by an event, holds of
  every run together with the events since the last pick.
-/
import Mathlib.Data.List.DropRight
import MeetingRoom.Session.Transition

namespace MeetingRoom

/-! ### Lists with one more element -/

theorem concat_eq_append_cons {α : Type} {es earlier later : List α} {e x : α}
    (h : es ++ [e] = earlier ++ x :: later) :
    later = [] ∧ e = x ∨ ∃ later', later = later' ++ [e] ∧ es = earlier ++ x :: later' := by
  rcases List.eq_nil_or_concat' later with rfl | ⟨later', e', rfl⟩
  · exact .inl ⟨rfl, by simpa using (List.append_inj' h rfl).2⟩
  · have h' : es ++ [e] = (earlier ++ x :: later') ++ [e'] := by simpa using h
    obtain ⟨hes, he⟩ := List.append_inj' h' rfl
    obtain rfl : e = e' := by simpa using he
    exact .inr ⟨later', rfl, hes⟩

/-! ### The moments of a run -/

/-- The inputs of a run, each with the state that it meets. -/
def moments {σ ι : Type} (step : σ → ι → σ) : σ → List ι → List (σ × ι)
  | _, [] => []
  | s, x :: rest => (s, x) :: moments step (step s x) rest

section Moments

variable {σ ι : Type} {step : σ → ι → σ}

theorem moments_concat (s : σ) (xs : List ι) (x : ι) :
    moments step s (xs ++ [x]) = moments step s xs ++ [(xs.foldl step s, x)] := by
  induction xs generalizing s with
  | nil => rfl
  | cons y rest ih =>
    rw [List.cons_append, moments, ih, moments, List.cons_append, List.foldl_cons]

/-- Each moment stands between the inputs before it, which led to its state, and
    those after it. -/
theorem split_of_mem_moments {s : σ} {xs : List ι} {m : σ × ι} (h : m ∈ moments step s xs) :
    ∃ earlier later, xs = earlier ++ m.2 :: later ∧ m.1 = earlier.foldl step s := by
  induction xs generalizing s with
  | nil => cases h
  | cons x rest ih =>
    rcases List.mem_cons.1 h with rfl | hrest
    · exact ⟨[], rest, rfl, rfl⟩
    · obtain ⟨earlier, later, hsplit, hstate⟩ := ih hrest
      refine ⟨x :: earlier, later, ?_, hstate⟩
      rw [hsplit, List.cons_append]

end Moments

/-! ### Actions -/

namespace Action

def picksSymbol : Action → Bool
  | .setSymbol _ => true
  | _ => false

def event? : Action → Option Event
  | .ingest e => some e
  | _ => none

end Action

/-! ### What is remembered of a run -/

/-- The actions after the symbol was picked last; all of them, if it never was. -/
def actionsSincePick (as : List Action) : List Action := as.rtakeWhile fun a => !a.picksSymbol

/-- The events after the symbol was picked last. -/
def eventsSincePick (as : List Action) : List Event :=
  (actionsSincePick as).filterMap Action.event?

theorem eventsSincePick_nil : eventsSincePick [] = [] := by
  simp [eventsSincePick, actionsSincePick]

theorem eventsSincePick_of_pick (as : List Action) (symbol : String) :
    eventsSincePick (as ++ [.setSymbol symbol]) = [] := by
  rw [eventsSincePick, actionsSincePick,
    List.rtakeWhile_concat_neg _ _ _ (by simp [Action.picksSymbol])]
  rfl

theorem eventsSincePick_of_not_pick (as : List Action) {a : Action} (h : a.picksSymbol = false) :
    eventsSincePick (as ++ [a]) = eventsSincePick as ++ a.event?.toList := by
  rw [eventsSincePick, actionsSincePick, List.rtakeWhile_concat_pos _ _ _ (by simp [h]),
    List.filterMap_append]
  cases he : a.event? <;> simp [eventsSincePick, actionsSincePick, he]

/-! ### Runs -/

namespace Session

def run (s : Session) (as : List Action) : Session :=
  as.foldl (fun s a => (s.apply a).session) s

theorem run_concat (s : Session) (as : List Action) (a : Action) :
    s.run (as ++ [a]) = ((s.run as).apply a).session := by
  rw [run, List.foldl_append]
  rfl

/-- An action that neither picks a symbol nor brings an event leaves the symbol,
    the plans, the live steps and the report. -/
theorem apply_frame {a : Action} (hpick : a.picksSymbol = false) (hevent : a.event? = none)
    (s : Session) :
    ∃ transcript busy statusLine,
      (s.apply a).session = { s with transcript, busy, statusLine } := by
  cases a with
  | setSymbol symbol => cases hpick
  | ingest e => cases hevent
  | submitQuery query author timestamp =>
    by_cases h : s.accepts query = true
    · exact ⟨_, _, _, by rw [apply, if_pos h]⟩
    · exact ⟨_, _, _, by rw [apply, if_neg h]⟩
  | clearHistory | requestClearHistory | addMessage _ | setBusy _ | setStatus _
  | submissionFailed _ => exact ⟨_, _, _, rfl⟩

/-- **Induction along a run.**  The second argument of `motive` is the events
    that the session remembers. -/
theorem run_induction {motive : Session → List Event → Prop}
    (fresh : ∀ symbol, motive (forSymbol symbol) [])
    (other : ∀ s es a, a.picksSymbol = false → a.event? = none →
      motive s es → motive (s.apply a).session es)
    (event : ∀ s es e, motive s es → motive (s.ingest e).1 (es ++ [e]))
    (symbol : String) (as : List Action) :
    motive ((forSymbol symbol).run as) (eventsSincePick as) := by
  induction as using List.reverseRecOn with
  | nil =>
    rw [eventsSincePick_nil]
    exact fresh symbol
  | append_singleton as a ih =>
    rw [run_concat]
    cases hpick : a.picksSymbol with
    | true =>
      -- a pick forgets: the session is fresh again, and nothing is remembered
      cases a <;> cases hpick
      rw [eventsSincePick_of_pick]
      exact fresh _
    | false =>
      rw [eventsSincePick_of_not_pick as hpick]
      cases hevent : a.event? with
      | none =>
        rw [Option.toList_none, List.append_nil]
        exact other _ _ a hpick hevent ih
      | some e =>
        cases a <;> cases hevent
        exact event _ _ e ih

end Session

end MeetingRoom
