/-
  MeetingRoom/Proofs/Session/Requests.lean
  ========================================
  **Requests to the server, and what is left when one fails.**

  Every operation of the host changes the store first and makes its request
  afterwards, so a failure finds the session already changed.  A meeting that
  does not start ends the turn, and the user's message stays; a transcript that
  the server does not clear is empty here all the same.

  An operation makes one request or none (`HostOp.request?`), and its result is
  the server's answer to it (`Store.calls_and_result_host`).
-/
import MeetingRoom.Proofs.Session.History
import MeetingRoom.Proofs.Session.Question
import MeetingRoom.Session.Host

namespace MeetingRoom

open Text (trimBlank NonBlank IsStripped)

/-! ### The request of an operation -/

namespace HostOp

/-- An accepted question asks for a meeting; clearing the transcript asks for the
    same at the server, if there is a symbol to name. -/
def request? (op : HostOp) (s : Store) : Option Effect :=
  match op with
  | .submit query _ _ =>
    if NonBlank query ∧ s.session.symbol ≠ "" then
      some (.startSession s.session.symbol (trimBlank query))
    else none
  | .clearHistory _ =>
    if s.session.symbol ≠ "" then some (.clearRemoteHistory s.session.symbol) else none
  | .switchSymbol _ | .ingest _ | .pump _ => none

/-- What the server would say during the operation. -/
def server : HostOp → Server
  | .submit _ _ server | .clearHistory server => server
  | .switchSymbol _ | .ingest _ | .pump _ => fun _ => .ok ()

end HostOp

/-! ### Questions -/

namespace Store

variable {s : Store} {server : Server} {query : String}

theorem perform_singleton_of_ok {e : Effect} (h : server e = .ok ()) :
    s.perform server [e] = { store := s, calls := [e] } := by
  simp only [perform, h]

theorem submit_of_not_accepted (h : ¬ (NonBlank query ∧ s.session.symbol ≠ ""))
    (timestamp : String) :
    s.submit server query timestamp = { store := { s with version := s.version + 1 } } := by
  rw [submit, carryOut, dispatch_submitQuery, if_neg h]
  rfl

theorem submit_of_started (h : NonBlank query ∧ s.session.symbol ≠ "")
    (hserver : server (.startSession s.session.symbol (trimBlank query)) = .ok ())
    (timestamp : String) :
    s.submit server query timestamp =
      { store :=
          { s with
            session := s.session.asked query s.author timestamp, version := s.version + 1 }
        calls := [.startSession s.session.symbol (trimBlank query)] } := by
  rw [submit, carryOut, dispatch_submitQuery, if_pos h]
  simp only [perform_singleton_of_ok hserver]
  rfl

/-- The message of the question stays, and the turn is over. -/
theorem submit_of_failed (h : NonBlank query ∧ s.session.symbol ≠ "") {f : Failure}
    (hserver : server (.startSession s.session.symbol (trimBlank query)) = .error f)
    (timestamp : String) :
    s.submit server query timestamp =
      { store :=
          { s with
            session :=
              { s.session.asked query s.author timestamp with
                busy := false, statusLine := "Error: " ++ f.message }
            version := s.version + 2 }
        calls := [.startSession s.session.symbol (trimBlank query)]
        result := .error f
        notices := [.startFailed s.session.symbol f.message] } := by
  rw [submit, carryOut, dispatch_submitQuery, if_pos h]
  -- the failure is dispatched as well, which makes two actions
  simp only [perform, hserver]
  rfl

/-! ### Clearing the transcript -/

def cleared (s : Store) : Store :=
  { s with session := { s.session with transcript := [] }, version := s.version + 1 }

theorem dispatch_requestClearHistory (s : Store) :
    s.dispatch .requestClearHistory =
      { store := s.cleared
        effects := if s.session.symbol ≠ "" then [.clearRemoteHistory s.session.symbol] else []
        notices := [] } := by
  simp only [dispatch, Session.apply, Session.hasSymbol_iff]
  rfl

theorem clearHistory_of_no_symbol (h : s.session.symbol = "") :
    s.clearHistory server = { store := s.cleared } := by
  rw [clearHistory, carryOut, dispatch_requestClearHistory, if_neg (by simp [h])]
  rfl

theorem clearHistory_of_ok (h : s.session.symbol ≠ "")
    (hserver : server (.clearRemoteHistory s.session.symbol) = .ok ()) :
    s.clearHistory server =
      { store := s.cleared, calls := [.clearRemoteHistory s.session.symbol] } := by
  rw [clearHistory, carryOut, dispatch_requestClearHistory, if_pos h]
  simp only [perform_singleton_of_ok hserver]
  rfl

theorem clearHistory_of_failed (h : s.session.symbol ≠ "") {f : Failure}
    (hserver : server (.clearRemoteHistory s.session.symbol) = .error f) :
    s.clearHistory server =
      { store := s.cleared
        calls := [.clearRemoteHistory s.session.symbol]
        result := .error f
        notices := [.clearFailed s.session.symbol f.message] } := by
  rw [clearHistory, carryOut, dispatch_requestClearHistory, if_pos h]
  simp only [perform, hserver]
  rfl

/-- Whatever the server says. -/
theorem store_clearHistory (s : Store) (server : Server) :
    (s.clearHistory server).store = s.cleared := by
  by_cases h : s.session.symbol = ""
  · rw [clearHistory_of_no_symbol h]
  · cases hserver : server (.clearRemoteHistory s.session.symbol) with
    | ok _ => rw [clearHistory_of_ok h hserver]
    | error f => rw [clearHistory_of_failed h hserver]

/-! ### One operation -/

/-- **The calls and the result of an operation** are its request, if it makes one,
    and the server's answer. -/
theorem calls_and_result_host (s : Store) (op : HostOp) :
    (s.host op).calls = (op.request? s).toList ∧
      (s.host op).result =
        match op.request? s with
        | some call => op.server call
        | none => .ok () := by
  cases op with
  | submit query timestamp server =>
    rw [host, HostOp.request?, HostOp.server]
    by_cases h : NonBlank query ∧ s.session.symbol ≠ ""
    · rw [if_pos h]
      cases hserver : server (.startSession s.session.symbol (trimBlank query)) with
      | ok _ =>
        rw [submit_of_started h hserver]
        exact ⟨rfl, hserver.symm⟩
      | error f =>
        rw [submit_of_failed h hserver]
        exact ⟨rfl, hserver.symm⟩
    · rw [if_neg h, submit_of_not_accepted h]
      exact ⟨rfl, rfl⟩
  | clearHistory server =>
    rw [host, HostOp.request?, HostOp.server]
    by_cases h : s.session.symbol = ""
    · rw [if_neg (by simp [h]), clearHistory_of_no_symbol h]
      exact ⟨rfl, rfl⟩
    · rw [if_pos h]
      cases hserver : server (.clearRemoteHistory s.session.symbol) with
      | ok _ =>
        rw [clearHistory_of_ok h hserver]
        exact ⟨rfl, hserver.symm⟩
      | error f =>
        rw [clearHistory_of_failed h hserver]
        exact ⟨rfl, hserver.symm⟩
  | switchSymbol _ | ingest _ | pump _ => exact ⟨rfl, rfl⟩

theorem result_host_eq_error_iff (s : Store) (op : HostOp) (f : Failure) :
    (s.host op).result = .error f ↔
      ∃ call, op.request? s = some call ∧ op.server call = .error f := by
  rw [(s.calls_and_result_host op).2]
  cases op.request? s with
  | none => simp
  | some call => simp

theorem result_host_eq_ok_iff (s : Store) (op : HostOp) :
    (s.host op).result = .ok () ↔ ∀ call ∈ (op.request? s).toList, op.server call = .ok () := by
  rw [(s.calls_and_result_host op).2]
  cases op.request? s with
  | none => simp
  | some call => simp

theorem store_submit_of_failed {f : Failure} {timestamp : String}
    (h : (s.submit server query timestamp).result = .error f) :
    (s.submit server query timestamp).store =
      { s with
        session :=
          { s.session.asked query s.author timestamp with
            busy := false, statusLine := "Error: " ++ f.message }
        version := s.version + 2 } := by
  obtain ⟨call, hcall, hserver⟩ :=
    (s.result_host_eq_error_iff (.submit query timestamp server) f).1 h
  by_cases haccepted : NonBlank query ∧ s.session.symbol ≠ ""
  · rw [HostOp.request?, if_pos haccepted] at hcall
    cases hcall
    have hfailed : server (.startSession s.session.symbol (trimBlank query)) = .error f := hserver
    rw [submit_of_failed haccepted hfailed]
  · rw [HostOp.request?, if_neg haccepted] at hcall
    cases hcall

/-! ### Runs -/

theorem hostRun_eq_map_moments (s : Store) (ops : List HostOp) :
    s.hostRun ops =
      (moments (fun s op => (s.host op).store) s ops).map fun m => m.1.host m.2 := by
  induction ops generalizing s with
  | nil => rfl
  | cons op rest ih => rw [hostRun, moments, List.map_cons, ih]

end Store

/-- **Requests and failures of a run of the host.**  The server is asked for one
    meeting for each accepted question and to clear its transcript for each
    clearing under a symbol, in the order of the operations, and for nothing
    else.  An operation fails if and only if its request does, and in the same
    way.  A question that starts no meeting leaves its message and the reason in
    the status line, and no turn is under way; a clearing that fails leaves an
    empty transcript.  The rest of the store is as before.  The text that is passed
    on is the question without the blanks around it. -/
theorem requests_of_run (author : String) (ops : List HostOp) :
    let run := moments (fun s op => (s.host op).store) (Store.new author) ops
    ((Store.new author).hostRun ops).map Turn.calls =
        (run.map fun m => (m.2.request? m.1).toList) ∧
      (∀ m ∈ run,
        (∀ f, (m.1.host m.2).result = .error f ↔
          ∃ call, m.2.request? m.1 = some call ∧ m.2.server call = .error f) ∧
        (∀ query timestamp server f, m.2 = .submit query timestamp server →
          (m.1.host m.2).result = .error f →
            (m.1.host m.2).store =
              { m.1 with
                session :=
                  { m.1.session with
                    transcript := m.1.session.transcript ++
                      [{ agentId := "user"
                         agentName := m.1.author
                         role := .known .user
                         content := trimBlank query
                         kind := .known .opinion
                         round := (m.1.session.transcript.getLast?.map Message.round).getD 1
                         timestamp := timestamp
                         dataReferences := []
                         confidence := Decimal.Double.one }]
                    busy := false
                    statusLine := "Error: " ++ f.message }
                version := m.1.version + 2 }) ∧
        (∀ server f, m.2 = .clearHistory server → (m.1.host m.2).result = .error f →
          (m.1.host m.2).store =
            { m.1 with
              session := { m.1.session with transcript := [] }, version := m.1.version + 1 })) ∧
      ∀ query, IsStripped query (trimBlank query) := by
  refine ⟨?_, ?_, Text.isStripped_trimBlank⟩
  · rw [Store.hostRun_eq_map_moments, List.map_map]
    refine List.map_congr_left ?_
    intro m _
    exact (m.1.calls_and_result_host m.2).1
  · rintro ⟨s, op⟩ -
    refine ⟨s.result_host_eq_error_iff op, ?_, ?_⟩
    · rintro query timestamp server f rfl hresult
      rw [← s.session.currentRound_eq]
      exact Store.store_submit_of_failed hresult
    · rintro server f rfl -
      exact s.store_clearHistory server

end MeetingRoom
