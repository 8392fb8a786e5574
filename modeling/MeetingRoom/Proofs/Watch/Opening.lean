/-
  MeetingRoom/Proofs/Watch/Opening.lean
  =====================================
  **Which runs of the program wait for a meeting that was started.**

  A run turns to the symbol, clears the transcript if that is asked for, and
  asks the question; it aborts as soon as a request fails.  But a question that
  is not accepted makes no request, and so nothing fails: the run goes on to
  wait for the events of a meeting that nobody started.  It does so exactly if
  the question is blank or the symbol is empty
  (`meeting_watched_iff_asked`).

  That the turn of a started meeting ends is the work of the stream, which puts
  a terminal event before the pump in any case (`exists_terminal_settled`).
-/
import MeetingRoom.Proofs.Feed.Arrivals
import MeetingRoom.Proofs.Json.ReadBack
import MeetingRoom.Proofs.Session.Activity
import MeetingRoom.Proofs.Session.Requests
import MeetingRoom.Watch.Run

namespace MeetingRoom

open Text (trimBlank NonBlank)
open Json (bind_eq_ok map_eq_ok mapError_eq_ok)

def Effect.startsMeeting : Effect → Bool
  | .startSession _ _ => true
  | .clearRemoteHistory _ => false

namespace Watch

/-! ### What the arguments ask for -/

namespace Arguments

/-- The question is not blank, and there is a symbol to ask about. -/
def Asks (a : Arguments) : Prop := NonBlank a.query ∧ a.symbol ≠ ""

instance (a : Arguments) : Decidable a.Asks :=
  inferInstanceAs (Decidable (NonBlank a.query ∧ a.symbol ≠ ""))

def clearing (a : Arguments) : List Effect :=
  if a.clear = true ∧ a.symbol ≠ "" then [.clearRemoteHistory a.symbol] else []

def question (a : Arguments) : List Effect :=
  if a.Asks then [.startSession a.symbol (trimBlank a.query)] else []

theorem filter_startsMeeting (a : Arguments) :
    (a.clearing ++ a.question).filter Effect.startsMeeting = a.question := by
  have hclearing : a.clearing.filter Effect.startsMeeting = [] := by
    unfold clearing
    split <;> rfl
  have hquestion : a.question.filter Effect.startsMeeting = a.question := by
    unfold question
    split <;> rfl
  rw [List.filter_append, hclearing, hquestion, List.nil_append]

end Arguments

/-! ### The opening of a run -/

variable {server : Server} {store : Store} {a : Arguments} {now : String}

/-- What is done before the question is asked. -/
def preparation (server : Server) (store : Store) (a : Arguments) : Turn :=
  let picked := (store.switchSymbol a.symbol).store
  if a.clear then picked.clearHistory server else { store := picked }

def askedTurn (server : Server) (store : Store) (a : Arguments) (now : String) : Turn :=
  (preparation server store a).store.submit server a.query now

theorem opening_eq_ok_iff {o : Opening} :
    opening server store a now = .ok o ↔
      (preparation server store a).result = .ok () ∧
        (askedTurn server store a now).result = .ok () ∧
        o =
          { store := (askedTurn server store a now).store
            calls := (preparation server store a).calls ++ (askedTurn server store a now).calls
            notices := (store.switchSymbol a.symbol).notices ++
              (preparation server store a).notices ++ (askedTurn server store a now).notices } := by
  rw [opening]
  simp only [bind_eq_ok, mapError_eq_ok]
  constructor
  · rintro ⟨⟨⟩, hprepared, ⟨⟩, hasked, ho⟩
    exact ⟨hprepared, hasked, (Except.ok.inj ho).symm⟩
  · rintro ⟨hprepared, hasked, rfl⟩
    exact ⟨(), hprepared, (), hasked, rfl⟩

theorem preparation_spec (server : Server) (store : Store) (a : Arguments) :
    (preparation server store a).store.session.symbol = a.symbol ∧
      (preparation server store a).calls = a.clearing ∧
      ((preparation server store a).result = .ok () ↔
        ∀ call ∈ a.clearing, server call = .ok ()) := by
  let picked := (store.switchSymbol a.symbol).store
  have hsymbol : picked.session.symbol = a.symbol := rfl
  cases hclear : a.clear with
  | false =>
    have hturn : preparation server store a = { store := picked } := by
      rw [preparation, hclear]
      rfl
    have hclearing : a.clearing = [] := by simp [Arguments.clearing, hclear]
    rw [hturn, hclearing]
    exact ⟨hsymbol, rfl, by simp⟩
  | true =>
    have hturn : preparation server store a = picked.host (.clearHistory server) := by
      rw [preparation, hclear]
      rfl
    have hclearing : a.clearing = ((HostOp.clearHistory server).request? picked).toList := by
      simp only [Arguments.clearing, hclear, true_and, HostOp.request?, hsymbol]
      split <;> rfl
    rw [hturn, hclearing]
    refine ⟨?_, (picked.calls_and_result_host _).1, picked.result_host_eq_ok_iff _⟩
    show (picked.clearHistory server).store.session.symbol = a.symbol
    rw [Store.store_clearHistory]
    exact hsymbol

theorem askedTurn_spec (server : Server) (store : Store) (a : Arguments) (now : String) :
    (askedTurn server store a now).calls = a.question ∧
      ((askedTurn server store a now).result = .ok () ↔
        ∀ call ∈ a.question, server call = .ok ()) := by
  let prepared := (preparation server store a).store
  have hsymbol : prepared.session.symbol = a.symbol := (preparation_spec server store a).1
  have hturn : askedTurn server store a now = prepared.host (.submit a.query now server) := rfl
  have hquestion :
      a.question = ((HostOp.submit a.query now server).request? prepared).toList := by
    rw [Arguments.question, HostOp.request?, hsymbol]
    by_cases h : NonBlank a.query ∧ a.symbol ≠ ""
    · rw [if_pos (show a.Asks from h), if_pos h]
      rfl
    · rw [if_neg (show ¬ a.Asks from h), if_neg h]
      rfl
  rw [hturn, hquestion]
  exact ⟨(prepared.calls_and_result_host _).1, prepared.result_host_eq_ok_iff _⟩

/-- **The opening succeeds** if and only if each request of the arguments is
    carried out. -/
theorem exists_opening_iff (server : Server) (store : Store) (a : Arguments) (now : String) :
    (∃ o, opening server store a now = .ok o) ↔
      ∀ call ∈ a.clearing ++ a.question, server call = .ok () := by
  have hprepared := (preparation_spec server store a).2.2
  have hasked := (askedTurn_spec server store a now).2
  rw [List.forall_mem_append, ← hprepared, ← hasked]
  constructor
  · rintro ⟨o, ho⟩
    obtain ⟨hpreparedOk, haskedOk, -⟩ := opening_eq_ok_iff.1 ho
    exact ⟨hpreparedOk, haskedOk⟩
  · rintro ⟨hpreparedOk, haskedOk⟩
    exact ⟨_, opening_eq_ok_iff.2 ⟨hpreparedOk, haskedOk, rfl⟩⟩

theorem calls_opening {o : Opening} (h : opening server store a now = .ok o) :
    o.calls = a.clearing ++ a.question := by
  obtain ⟨-, -, rfl⟩ := opening_eq_ok_iff.1 h
  rw [(preparation_spec server store a).2.1, (askedTurn_spec server store a now).1]

/-! ### Waiting -/

/-- The pump stops at the first terminal event, and only there. -/
theorem ended_pump_iff (s : Store) (es : List Event) :
    Ended (s.pump es) ↔ ∃ e ∈ es, e.isTerminal = true := by
  induction es generalizing s with
  | nil =>
    constructor
    · rintro ⟨o, ho, -⟩
      cases ho
    · rintro ⟨e, he, -⟩
      cases he
  | cons e rest ih =>
    have hrest := ih (s.ingest e).store
    rw [Ended] at hrest ⊢
    rw [s.observed_pump_cons]
    cases hterminal : e.isTerminal with
    | true =>
      have hidle := s.busy_ingest_of_terminal hterminal
      simp [hterminal, hidle]
    | false =>
      have hlater : (∃ x ∈ e :: rest, x.isTerminal = true) ↔ ∃ x ∈ rest, x.isTerminal = true := by
        simp [hterminal]
      rw [if_neg (by simp), List.getLast?_cons, hlater, ← hrest]
      -- if nothing of the rest was observed, this event is the last, and it is not terminal
      cases ((s.ingest e).store.pump rest).observed.getLast? with
      | none => simp [hterminal]
      | some o => simp

theorem arrivals_eq (b : Backend) (net : Network) (a : Arguments) :
    b.arrivals net (a.clearing ++ a.question) = b.arrivals net a.question := by
  have hclearing : a.clearing.filterMap (b.delivery? net) = [] := by
    unfold Arguments.clearing
    split <;> rfl
  rw [Backend.arrivals, Backend.deliveries, List.filterMap_append, hclearing, List.nil_append]
  rfl

theorem exists_start {b : Backend} {net : Network} {symbol query : String}
    (h : b.server net (.startSession symbol query) = .ok ()) :
    ∃ stream, b.start net symbol query = .ok stream := by
  -- as in `arrivals_of_start`
  delta Backend.server at h
  dsimp only at h
  obtain ⟨stream, hstart, -⟩ := map_eq_ok.1 h
  exact ⟨stream, hstart⟩

/-- **Only a meeting ends the wait.** -/
theorem ended_watch_iff {b : Backend} {net : Network} {o : Opening}
    (h : opening (b.server net) store a now = .ok o) :
    (o.watch (b.arrivals net o.calls)).ended = true ↔ a.Asks := by
  have hended : (o.watch (b.arrivals net o.calls)).ended = true ↔
      ∃ e ∈ b.arrivals net o.calls, e.isTerminal = true := by
    rw [← ended_pump_iff o.store]
    exact decide_eq_true_iff
  rw [hended, calls_opening h, arrivals_eq]
  by_cases hasks : a.Asks
  · have hquestion : a.question = [.startSession a.symbol (trimBlank a.query)] := if_pos hasks
    have hserver := (exists_opening_iff (b.server net) store a now).1 ⟨o, h⟩
      (.startSession a.symbol (trimBlank a.query)) (by simp [hquestion])
    obtain ⟨stream, hstart⟩ := exists_start hserver
    rw [hquestion, arrivals_of_start hstart]
    exact iff_of_true (exists_terminal_settled stream.ending stream.frames) hasks
  · have hquestion : a.question = [] := if_neg hasks
    rw [hquestion]
    refine iff_of_false ?_ hasks
    rintro ⟨e, he, -⟩
    cases he

/-- **Which runs wait for a meeting that was started.**  A run comes to wait for
    events if and only if each request of its arguments is carried out.  The
    requests for a meeting are then those of the question: one that was carried
    out if the question is not blank and the symbol not empty, and else none at
    all.  In the first case the wait ends, and in the second it does not. -/
theorem meeting_watched_iff_asked (server : Server) (author now : String) (a : Arguments) :
    let opened := opening server (.new author) a now
    ((∃ o, opened = .ok o) ↔ ∀ call ∈ a.clearing ++ a.question, server call = .ok ()) ∧
      (∀ o, opened = .ok o →
        o.calls.filter Effect.startsMeeting = a.question ∧
          ((∃ call, o.calls.filter Effect.startsMeeting = [call] ∧ server call = .ok ()) ↔
            a.Asks)) ∧
      ∀ around c w, watchWith around a c = .ok w → (w.ended = true ↔ a.Asks) := by
  refine ⟨exists_opening_iff server (.new author) a now, ?_, ?_⟩
  · intro o ho
    have hstarts : o.calls.filter Effect.startsMeeting = a.question := by
      rw [calls_opening ho, a.filter_startsMeeting]
    refine ⟨hstarts, ?_⟩
    rw [hstarts]
    constructor
    · rintro ⟨call, hcall, -⟩
      by_cases hasks : a.Asks
      · exact hasks
      · rw [Arguments.question, if_neg hasks] at hcall
        cases hcall
    · intro hasks
      have hquestion : a.question = [.startSession a.symbol (trimBlank a.query)] := if_pos hasks
      have hserver := (exists_opening_iff server (.new author) a now).1 ⟨o, ho⟩
      exact ⟨_, hquestion, hserver _ (by simp [hquestion])⟩
  · intro around c w hw
    rw [watchWith] at hw
    obtain ⟨b, -, hb⟩ := bind_eq_ok.1 hw
    obtain ⟨o, ho, hwatching⟩ := bind_eq_ok.1 hb
    obtain rfl := (Except.ok.inj hwatching).symm
    exact ended_watch_iff ho

/-- A blank question starts no meeting, and the run waits for one all the same. -/
theorem blankQuestion_waits :
    ¬ ∀ (server : Server) (author now : String) (a : Arguments) (o : Opening),
      opening server (.new author) a now = .ok o →
        ∃ call, o.calls.filter Effect.startsMeeting = [call] ∧ server call = .ok () := by
  intro h
  let a : Arguments := { symbol := "US:AAPL", query := "  " }
  have hblank : ¬ NonBlank a.query := by simp [NonBlank, Text.isBlank, a]
  have hasks : ¬ a.Asks := fun hasks => hblank hasks.1
  have hcalls : a.clearing ++ a.question = [] := by
    simp [Arguments.clearing, Arguments.question, hasks, a]
  obtain ⟨o, ho⟩ := (exists_opening_iff (fun _ => .ok ()) (.new "me") a "").2 (by simp)
  obtain ⟨call, hcall, -⟩ := h _ _ _ _ o ho
  rw [calls_opening ho, hcalls] at hcall
  cases hcall

end Watch

end MeetingRoom
