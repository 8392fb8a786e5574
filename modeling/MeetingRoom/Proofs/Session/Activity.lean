/-
  MeetingRoom/Proofs/Session/Activity.lean
  ========================================
  **When a turn is under way.**

  The activity flag has many writers: a question that is accepted, a server
  that refuses it, a new symbol, and each of the events that end a turn.
  `Store.busy_host` gathers them into one rule for an operation of the host: the
  flag is set afterwards if the operation starts a turn, or if it was set before
  and the operation does not stop the turn.  What a whole run leaves follows by
  induction (`busy_iff_started`).
-/
import MeetingRoom.Proofs.Session.Ending
import MeetingRoom.Proofs.Session.History

namespace MeetingRoom

open Text (trimBlank)

/-! ### What starts and what stops a turn -/

/-- The event ends the turn: the meeting has finished or failed. -/
def Event.Ends : Event → Prop
  | .finished _ | .error _ => True
  | .stateChange p => p.status = "done" ∨ p.status = "error"
  | _ => False

theorem Event.isTerminal_iff_ends {e : Event} : e.isTerminal = true ↔ e.Ends := by
  cases e <;> simp [Event.isTerminal, Event.Ends]

/-- The question is not blank, and there is a symbol to ask about. -/
def Store.Admits (s : Store) (query : String) : Prop :=
  trimBlank query ≠ "" ∧ s.session.symbol ≠ ""

theorem Store.accepts_iff_admits {s : Store} {query : String} :
    s.session.accepts query = true ↔ s.Admits query := by
  simp [Session.accepts, Session.hasSymbol, Store.Admits]

namespace HostOp

/-- The operation is a question that is accepted and starts a meeting. -/
def Starts (op : HostOp) (s : Store) : Prop :=
  match op with
  | .submit query _ server =>
    s.Admits query ∧ server (.startSession s.session.symbol (trimBlank query)) = .ok ()
  | _ => False

/-- The operation picks a symbol, or is a question that is accepted and starts
    no meeting, or applies an event that ends the turn. -/
def Stops (op : HostOp) (s : Store) : Prop :=
  match op with
  | .switchSymbol _ => True
  | .submit query _ server =>
    s.Admits query ∧ ∃ f, server (.startSession s.session.symbol (trimBlank query)) = .error f
  | .clearHistory _ => False
  | .ingest e => e.Ends
  | .pump queue => ∃ applied ∈ (s.pump queue).observed, applied.1.Ends

end HostOp

/-! ### Events -/

theorem Session.busy_ingest_of_not_terminal (s : Session) {e : Event}
    (h : e.isTerminal = false) : (s.ingest e).1.busy = s.busy := by
  cases e with
  | stateChange p =>
    have hstatus : ¬ (p.status = "done" ∨ p.status = "error") := by
      simpa [Event.isTerminal] using h
    rw [ingest, if_neg hstatus]
  | error _ | finished _ => cases h
  | status _ | message _ | planGenerated _ | toolStart _ | toolComplete _ | toolError _ | report _
  | unknown _ _ => rfl

theorem Session.symbol_ingest (s : Session) (e : Event) : (s.ingest e).1.symbol = s.symbol := by
  cases e with
  | stateChange p =>
    simp only [ingest]
    split <;> rfl
  | status _ | message _ | planGenerated _ | toolStart _ | toolComplete _ | toolError _ | error _
  | report _ | finished _ | unknown _ _ => rfl

namespace Store

theorem busy_ingest (s : Store) (e : Event) :
    (s.ingest e).store.session.busy = true ↔ s.session.busy = true ∧ ¬ e.Ends := by
  show (s.session.ingest e).1.busy = true ↔ _
  rw [← Event.isTerminal_iff_ends]
  cases h : e.isTerminal with
  | true => simp [s.session.busy_ingest_of_terminal h]
  | false => simp [s.session.busy_ingest_of_not_terminal h]

theorem symbol_ingest (s : Store) (e : Event) :
    (s.ingest e).store.session.symbol = s.session.symbol := s.session.symbol_ingest e

/-- The pump leaves the flag unless it applies an event that ends the turn. -/
theorem busy_pump (s : Store) (queue : List Event) :
    (s.pump queue).store.session.busy = true ↔
      s.session.busy = true ∧ ¬ ∃ applied ∈ (s.pump queue).observed, applied.1.Ends := by
  induction queue generalizing s with
  | nil => simp [pump]
  | cons e rest ih =>
    rw [s.store_pump_cons, s.observed_pump_cons]
    cases h : e.isTerminal with
    | true =>
      have hends : e.Ends := Event.isTerminal_iff_ends.1 h
      simp [s.busy_ingest, hends]
    | false =>
      have hends : ¬ e.Ends := by simp [← Event.isTerminal_iff_ends, h]
      simp [ih, s.busy_ingest, hends]

theorem symbol_pump (s : Store) (queue : List Event) :
    (s.pump queue).store.session.symbol = s.session.symbol := by
  induction queue generalizing s with
  | nil => rfl
  | cons e rest ih =>
    rw [s.store_pump_cons]
    split
    · exact s.symbol_ingest e
    · rw [ih, s.symbol_ingest]

/-! ### Requests -/

/-- **What a question does to the session**: nothing if it is not accepted, and
    else a turn is under way exactly if the server starts it. -/
theorem session_submit (s : Store) (server : Server) (query timestamp : String) :
    (¬ s.Admits query ∧ (s.submit server query timestamp).store.session = s.session) ∨
      (s.Admits query ∧
        server (.startSession s.session.symbol (trimBlank query)) = .ok () ∧
        ∃ transcript, (s.submit server query timestamp).store.session =
          { s.session with transcript, busy := true }) ∨
      (s.Admits query ∧
        (∃ f, server (.startSession s.session.symbol (trimBlank query)) = .error f) ∧
        ∃ transcript statusLine, (s.submit server query timestamp).store.session =
          { s.session with transcript, busy := false, statusLine }) := by
  by_cases h : s.Admits query
  · have haccepted := Session.accepts_iff.1 (accepts_iff_admits.2 h)
    cases hserver : server (.startSession s.session.symbol (trimBlank query)) with
    | ok _ =>
      refine .inr (.inl ⟨h, rfl, ?_⟩)
      rw [submit_of_started haccepted hserver]
      exact ⟨_, rfl⟩
    | error f =>
      refine .inr (.inr ⟨h, ⟨f, rfl⟩, ?_⟩)
      rw [submit_of_failed haccepted hserver]
      exact ⟨_, _, rfl⟩
  · have haccepted := fun h' => h (accepts_iff_admits.1 (Session.accepts_iff.2 h'))
    refine .inl ⟨h, ?_⟩
    rw [submit_of_not_accepted haccepted]

theorem symbol_submit (s : Store) (server : Server) (query timestamp : String) :
    (s.submit server query timestamp).store.session.symbol = s.session.symbol := by
  rcases s.session_submit server query timestamp with
    ⟨_, hs⟩ | ⟨_, _, _, hs⟩ | ⟨_, _, _, _, hs⟩ <;> rw [hs]

theorem busy_submit (s : Store) (server : Server) (query timestamp : String) :
    (s.submit server query timestamp).store.session.busy = true ↔
      (HostOp.submit query timestamp server).Starts s ∨
        s.session.busy = true ∧ ¬ (HostOp.submit query timestamp server).Stops s := by
  rcases s.session_submit server query timestamp with
    ⟨h, hs⟩ | ⟨h, hserver, _, hs⟩ | ⟨h, ⟨f, hserver⟩, _, _, hs⟩
  · simp [hs, HostOp.Starts, HostOp.Stops, h]
  · simp [hs, HostOp.Starts, h, hserver]
  · simp [hs, HostOp.Starts, HostOp.Stops, h, hserver]

/-- Clearing the transcript leaves the rest of the session, whatever the server
    says to the request. -/
theorem session_clearHistory (s : Store) (server : Server) :
    (s.clearHistory server).store.session = { s.session with transcript := [] } := by
  rw [store_clearHistory]
  rfl

/-! ### Operations and runs -/

/-- **What an operation does to the flag.** -/
theorem busy_host (s : Store) (op : HostOp) :
    (s.host op).store.session.busy = true ↔
      op.Starts s ∨ s.session.busy = true ∧ ¬ op.Stops s := by
  cases op with
  | switchSymbol symbol =>
    have hidle : (s.host (.switchSymbol symbol)).store.session.busy = false := rfl
    simp [hidle, HostOp.Starts, HostOp.Stops]
  | submit query timestamp server =>
    rw [host]
    exact s.busy_submit server query timestamp
  | clearHistory server =>
    have hsession := s.session_clearHistory server
    simp [host, hsession, HostOp.Starts, HostOp.Stops]
  | ingest e =>
    show (s.ingest e).store.session.busy = true ↔ _
    simp [s.busy_ingest, HostOp.Starts, HostOp.Stops]
  | pump queue =>
    show (s.pump queue).store.session.busy = true ↔ _
    simp [s.busy_pump, HostOp.Starts, HostOp.Stops]

theorem symbol_host {s : Store} {op : HostOp} (h : ¬ op.Stops s) :
    (s.host op).store.session.symbol = s.session.symbol := by
  cases op with
  | switchSymbol symbol => exact absurd trivial h
  | submit query timestamp server =>
    rw [host]
    exact s.symbol_submit server query timestamp
  | clearHistory server =>
    have hsession := s.session_clearHistory server
    simp [host, hsession]
  | ingest e => exact s.symbol_ingest e
  | pump queue => exact s.symbol_pump queue

def afterRun (s : Store) (ops : List HostOp) : Store :=
  ops.foldl (fun s op => (s.host op).store) s

theorem afterRun_concat (s : Store) (ops : List HostOp) (op : HostOp) :
    s.afterRun (ops ++ [op]) = ((s.afterRun ops).host op).store := by
  rw [afterRun, List.foldl_append]
  rfl

/-- It is the store of the last turn, if there is a turn at all. -/
theorem getLast?_hostRun (s : Store) (ops : List HostOp) :
    ((s.hostRun ops).getLast?.map Turn.store).getD s = s.afterRun ops := by
  induction ops generalizing s with
  | nil => rfl
  | cons op rest ih =>
    rw [hostRun, List.getLast?_cons, afterRun, List.foldl_cons, ← afterRun, ← ih]
    cases ((s.host op).store.hostRun rest).getLast? <;> rfl

end Store

/-- The run is split at an operation that starts a turn, and no later operation
    stops it. -/
def Unstopped (s : Store) (earlier : List HostOp) (op : HostOp) (later : List HostOp) : Prop :=
  op.Starts (s.afterRun earlier) ∧
    ∀ between next rest, later = between ++ next :: rest →
      ¬ next.Stops (s.afterRun (earlier ++ op :: between))

theorem unstopped_concat {s : Store} {earlier later : List HostOp} {op last : HostOp} :
    Unstopped s earlier op (later ++ [last]) ↔
      Unstopped s earlier op later ∧ ¬ last.Stops (s.afterRun (earlier ++ op :: later)) := by
  constructor
  · rintro ⟨hstarts, hlater⟩
    refine ⟨⟨hstarts, ?_⟩, hlater later last [] rfl⟩
    rintro between next rest rfl
    exact hlater between next (rest ++ [last]) (by simp)
  · rintro ⟨⟨hstarts, hlater⟩, hlast⟩
    refine ⟨hstarts, ?_⟩
    intro between next rest hsplit
    rcases concat_eq_append_cons hsplit with ⟨rfl, rfl⟩ | ⟨rest', rfl, rfl⟩
    · have hbetween : later = between := by simpa using hsplit
      rw [← hbetween]
      exact hlast
    · exact hlater between next rest' rfl

theorem busy_afterRun_iff (author : String) (ops : List HostOp) :
    ((Store.new author).afterRun ops).session.busy = true ↔
      ∃ earlier op later, ops = earlier ++ op :: later ∧
        Unstopped (Store.new author) earlier op later := by
  induction ops using List.reverseRecOn with
  | nil =>
    constructor
    · intro h
      cases h
    · rintro ⟨earlier, op, later, hops, _⟩
      simp at hops
  | append_singleton ops last ih =>
    rw [Store.afterRun_concat, Store.busy_host, ih]
    -- the turn under way starts with the last operation, or was under way and is not stopped
    constructor
    · rintro (hstarts | ⟨⟨earlier, op, later, rfl, hunstopped⟩, hlast⟩)
      · exact ⟨ops, last, [], rfl, hstarts, fun _ _ _ h => by simp at h⟩
      · exact ⟨earlier, op, later ++ [last], by simp, unstopped_concat.2 ⟨hunstopped, hlast⟩⟩
    · rintro ⟨earlier, op, later, hops, hunstopped⟩
      rcases concat_eq_append_cons hops with ⟨rfl, rfl⟩ | ⟨later', rfl, rfl⟩
      · have hearlier : ops = earlier := by simpa using hops
        rw [hearlier]
        exact .inl hunstopped.1
      · obtain ⟨hunstopped, hlast⟩ := unstopped_concat.1 hunstopped
        exact .inr ⟨⟨earlier, op, later', rfl, hunstopped⟩, hlast⟩

theorem symbol_ne_empty_of_busy (author : String) (ops : List HostOp)
    (h : ((Store.new author).afterRun ops).session.busy = true) :
    ((Store.new author).afterRun ops).session.symbol ≠ "" := by
  induction ops using List.reverseRecOn with
  | nil => cases h
  | append_singleton ops last ih =>
    rw [Store.afterRun_concat] at h ⊢
    rcases (Store.busy_host _ _).1 h with hstarts | ⟨hbusy, hstops⟩
    · -- only a question starts a turn, and it is asked about a symbol
      cases last with
      | submit query timestamp server =>
        rw [Store.host, Store.symbol_submit]
        exact hstarts.1.2
      | switchSymbol _ | clearHistory _ | ingest _ | pump _ => cases hstarts
    · rw [Store.symbol_host hstops]
      exact ih hbusy

/-- **When a turn is under way.**  After a run of the host, that is in the store of
    its last turn, the session is busy if and only if the run contains a question
    that was accepted and started a meeting, and after it no pick of a symbol, no
    accepted question that started none, and no applied event that ends the turn.
    A busy session has a symbol, and clearing the transcript leaves the flag as it
    is. -/
theorem busy_iff_started (author : String) (ops : List HostOp) :
    let s := (Store.new author).afterRun ops
    (s.session.busy = true ↔
        ∃ earlier op later, ops = earlier ++ op :: later ∧
          op.Starts ((Store.new author).afterRun earlier) ∧
          ∀ between next rest, later = between ++ next :: rest →
            ¬ next.Stops ((Store.new author).afterRun (earlier ++ op :: between))) ∧
      (s.session.busy = true → s.session.symbol ≠ "") ∧
      (∀ server, (s.clearHistory server).store.session.busy = s.session.busy) ∧
      (((Store.new author).hostRun ops).getLast?.map Turn.store).getD (Store.new author) = s := by
  refine ⟨busy_afterRun_iff author ops, symbol_ne_empty_of_busy author ops, ?_,
    (Store.new author).getLast?_hostRun ops⟩
  intro server
  rw [Store.session_clearHistory]

end MeetingRoom
