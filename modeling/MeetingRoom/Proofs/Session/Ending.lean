/-
  MeetingRoom/Proofs/Session/Ending.lean
  ======================================
  **What ends a turn.**

  Two parts of the program decide on their own which events end a turn:
  `Event.isTerminal` for the pump, and the transition that clears the activity
  flag.  They agree (`Session.busy_ingest_of_terminal`), so the pump stops at the first
  terminal event and has then applied exactly the events up to it
  (`Store.store_pump_of_terminal`).
-/
import MeetingRoom.Proofs.Session.Requests

namespace MeetingRoom

open Text (trimBlank)

/-! ### The start of a turn -/

/-- A question that is accepted asks for one meeting, and a server that starts it
    leaves the session busy. -/
theorem Store.submit_of_accepts {s : Store} {server : Server} {query : String}
    (haccepts : s.session.accepts query = true)
    (hserver : server (.startSession s.session.symbol (trimBlank query)) = .ok ())
    (timestamp : String) :
    (s.submit server query timestamp).result = .ok () ∧
      (s.submit server query timestamp).calls =
        [.startSession s.session.symbol (trimBlank query)] ∧
      (s.submit server query timestamp).store.session.busy = true := by
  rw [submit_of_started (Session.accepts_iff.1 haccepts) hserver]
  exact ⟨rfl, rfl, rfl⟩

/-! ### The events that are applied -/

def Store.ingestAll (s : Store) (es : List Event) : Store :=
  es.foldl (fun s e => (s.ingest e).store) s

theorem Store.ingestAll_concat (s : Store) (es : List Event) (e : Event) :
    s.ingestAll (es ++ [e]) = ((s.ingestAll es).ingest e).store := by
  rw [ingestAll, List.foldl_append]
  rfl

theorem Store.ingestAll_cons (s : Store) (e : Event) (rest : List Event) :
    s.ingestAll (e :: rest) = (s.ingest e).store.ingestAll rest := rfl

theorem Store.version_ingestAll (s : Store) (es : List Event) :
    (s.ingestAll es).version = s.version + es.length := by
  induction es generalizing s with
  | nil => rfl
  | cons e rest ih =>
    have hstep : (s.ingest e).store.version = s.version + 1 := rfl
    rw [ingestAll_cons, ih, hstep, List.length_cons]
    omega

theorem Session.busy_ingest_of_terminal (s : Session) {e : Event} (h : e.isTerminal = true) :
    (s.ingest e).1.busy = false := by
  cases e with
  | stateChange p =>
    have hstatus : p.status = "done" ∨ p.status = "error" := by
      simpa [Event.isTerminal] using h
    rw [ingest, if_pos hstatus]
  | error _ | finished _ => rfl
  | status _ | message _ | planGenerated _ | toolStart _ | toolComplete _ | toolError _ | report _
  | unknown _ _ => cases h

theorem Store.busy_ingest_of_terminal (s : Store) {e : Event} (h : e.isTerminal = true) :
    (s.ingest e).store.session.busy = false :=
  s.session.busy_ingest_of_terminal h

theorem Store.stops_iff_terminal (s : Store) (e : Event) :
    (e.isTerminal && !(s.ingest e).store.session.busy) = e.isTerminal := by
  cases h : e.isTerminal with
  | false => rfl
  | true => rw [s.busy_ingest_of_terminal h, Bool.not_false, Bool.and_true]

/-! ### Pumping -/

namespace Store

/-- The events, each with the store just after it. -/
def observations (s : Store) : List Event → List (Event × Store)
  | [] => []
  | e :: rest => (e, (s.ingest e).store) :: (s.ingest e).store.observations rest

theorem pump_cons_of_terminal (s : Store) {e : Event} (h : e.isTerminal = true)
    (rest : List Event) :
    s.pump (e :: rest) =
      { store := (s.ingest e).store
        applied := 1
        observed := [(e, (s.ingest e).store)]
        left := rest
        notices := (s.ingest e).notices } := by
  rw [pump]
  simp only [s.stops_iff_terminal, if_pos h]

theorem pump_cons_of_not_terminal (s : Store) {e : Event} (h : e.isTerminal = false)
    (rest : List Event) :
    s.pump (e :: rest) =
      { (s.ingest e).store.pump rest with
        applied := ((s.ingest e).store.pump rest).applied + 1
        observed := (e, (s.ingest e).store) :: ((s.ingest e).store.pump rest).observed
        notices := (s.ingest e).notices ++ ((s.ingest e).store.pump rest).notices } := by
  rw [pump]
  simp only [h, Bool.false_and, Bool.false_eq_true, if_false]

/-- The events before the first terminal one are ingested one after the other. -/
theorem pump_append {before : List Event} (hbefore : ∀ e ∈ before, e.isTerminal = false)
    (s : Store) (rest : List Event) :
    (s.pump (before ++ rest)).store = ((s.ingestAll before).pump rest).store ∧
      (s.pump (before ++ rest)).left = ((s.ingestAll before).pump rest).left ∧
      (s.pump (before ++ rest)).observed =
        s.observations before ++ ((s.ingestAll before).pump rest).observed := by
  induction before generalizing s with
  | nil => exact ⟨rfl, rfl, rfl⟩
  | cons e before ih =>
    have he : e.isTerminal = false := hbefore e List.mem_cons_self
    obtain ⟨hstore, hleft, hobserved⟩ :=
      ih (fun x hx => hbefore x (List.mem_cons_of_mem _ hx)) (s.ingest e).store
    rw [List.cons_append, s.pump_cons_of_not_terminal he, s.ingestAll_cons]
    refine ⟨hstore, hleft, ?_⟩
    rw [observations, List.cons_append, ← hobserved]

theorem store_pump_cons (s : Store) (e : Event) (rest : List Event) :
    (s.pump (e :: rest)).store =
      if e.isTerminal = true then (s.ingest e).store else ((s.ingest e).store.pump rest).store := by
  cases h : e.isTerminal with
  | true => rw [s.pump_cons_of_terminal h, if_pos rfl]
  | false => rw [s.pump_cons_of_not_terminal h, if_neg (by simp)]

theorem observed_pump_cons (s : Store) (e : Event) (rest : List Event) :
    (s.pump (e :: rest)).observed =
      (e, (s.ingest e).store) ::
        if e.isTerminal = true then [] else ((s.ingest e).store.pump rest).observed := by
  cases h : e.isTerminal with
  | true => rw [s.pump_cons_of_terminal h, if_pos rfl]
  | false => rw [s.pump_cons_of_not_terminal h, if_neg (by simp)]

/-- The pump applies the events up to the first terminal one. -/
theorem store_pump_of_terminal (s : Store) {before : List Event} {last : Event}
    (after : List Event) (hbefore : ∀ e ∈ before, e.isTerminal = false)
    (hlast : last.isTerminal = true) :
    (s.pump (before ++ last :: after)).store = s.ingestAll (before ++ [last]) := by
  obtain ⟨hstore, -, -⟩ := pump_append hbefore s (last :: after)
  rw [hstore, pump_cons_of_terminal _ hlast, ingestAll_concat]

end Store

theorem exists_first_terminal {es : List Event} (h : ∃ e ∈ es, e.isTerminal = true) :
    ∃ before last after, es = before ++ last :: after ∧
      (∀ e ∈ before, e.isTerminal = false) ∧ last.isTerminal = true := by
  induction es with
  | nil =>
    obtain ⟨_, he, _⟩ := h
    cases he
  | cons e rest ih =>
    by_cases hterminal : e.isTerminal = true
    · exact ⟨[], e, rest, rfl, by simp, hterminal⟩
    · have hrest : ∃ x ∈ rest, x.isTerminal = true := by
        obtain ⟨x, hx, hxt⟩ := h
        rcases List.mem_cons.1 hx with rfl | hx
        · exact absurd hxt hterminal
        · exact ⟨x, hx, hxt⟩
      obtain ⟨before, last, after, rfl, hbefore, hlast⟩ := ih hrest
      refine ⟨e :: before, last, after, rfl, ?_, hlast⟩
      intro x hx
      rcases List.mem_cons.1 hx with rfl | hx
      · exact Bool.eq_false_iff.2 hterminal
      · exact hbefore x hx

end MeetingRoom
