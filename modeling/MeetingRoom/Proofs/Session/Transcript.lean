/-
  MeetingRoom/Proofs/Session/Transcript.lean
  ==========================================
  **What stands in the transcript, and what is asked of the server.**

  Three operations of a store add to the transcript and three empty it.  So it
  holds, in order, what was contributed since it was emptied last.  The message
  of a question depends on the moment of asking: on the symbol, which decides
  whether the question is accepted, and on the message before it, which gives
  the round.  `moments` therefore pairs each operation of a run with the store
  that it meets.

  The requests of a run are read off the same moments (`Store.effects_operate`).
-/
import MeetingRoom.Proofs.Session.Activity
import MeetingRoom.Proofs.Session.Question

namespace MeetingRoom

open Text (trimBlank NonBlank IsStripped)

/-! ### What an event does to the transcript -/

def Event.message? : Event → Option Message
  | .message m => some m
  | _ => none

theorem Session.transcript_ingest (s : Session) (e : Event) :
    (s.ingest e).1.transcript = s.transcript ++ e.message?.toList := by
  cases e with
  | message m => rfl
  | stateChange p =>
    simp only [ingest, Event.message?, Option.toList_none, List.append_nil]
    split <;> rfl
  | status _ | planGenerated _ | toolStart _ | toolComplete _ | toolError _ | error _ | report _
  | finished _ | unknown _ _ => exact (List.append_nil _).symm

/-! ### Operations of a store -/

inductive StoreOp where
  | setSymbol (symbol : String)
  | addMessage (message : Message)
  | setBusy (busy : Bool)
  | setStatus (text : String)
  | clearHistory
  | requestClearHistory
  | submitQuery (query timestamp : String)
  | submissionFailed (error : String)
  | ingest (event : Event)

namespace StoreOp

/-- The action that is dispatched; the store signs its questions. -/
def action (author : String) : StoreOp → Action
  | .setSymbol symbol => .setSymbol symbol
  | .addMessage m => .addMessage m
  | .setBusy busy => .setBusy busy
  | .setStatus text => .setStatus text
  | .clearHistory => .clearHistory
  | .requestClearHistory => .requestClearHistory
  | .submitQuery query timestamp => .submitQuery query author timestamp
  | .submissionFailed error => .submissionFailed error
  | .ingest e => .ingest e

def clears : StoreOp → Bool
  | .setSymbol _ | .clearHistory | .requestClearHistory => true
  | _ => false

def picked? : StoreOp → Option String
  | .setSymbol symbol => some symbol
  | _ => none

/-- The messages that an operation adds to the transcript of a session. -/
def contribution (author : String) (s : Session) : StoreOp → List Message
  | .addMessage m => [m]
  | .ingest e => e.message?.toList
  | .submitQuery query timestamp =>
    if NonBlank query ∧ s.symbol ≠ "" then
      [{ agentId := "user"
         agentName := author
         role := .known .user
         content := trimBlank query
         kind := .known .opinion
         round := (s.transcript.getLast?.map Message.round).getD 1
         timestamp := timestamp
         dataReferences := []
         confidence := Decimal.Double.one }]
    else []
  | _ => []

/-- The request that an operation asks for. -/
def request? (s : Session) : StoreOp → Option Effect
  | .submitQuery query _ =>
    if NonBlank query ∧ s.symbol ≠ "" then some (.startSession s.symbol (trimBlank query)) else none
  | .requestClearHistory => if s.symbol ≠ "" then some (.clearRemoteHistory s.symbol) else none
  | _ => none

end StoreOp

/-! ### One operation -/

namespace Store

def operate (s : Store) (op : StoreOp) : Dispatched := s.dispatch (op.action s.author)

def afterOp (s : Store) (op : StoreOp) : Store := (s.operate op).store

def afterOps (s : Store) (ops : List StoreOp) : Store := ops.foldl afterOp s

theorem afterOps_concat (s : Store) (ops : List StoreOp) (op : StoreOp) :
    s.afterOps (ops ++ [op]) = (s.afterOps ops).afterOp op := by
  rw [afterOps, List.foldl_append]
  rfl

theorem author_afterOps (s : Store) (ops : List StoreOp) :
    (s.afterOps ops).author = s.author := by
  induction ops using List.reverseRecOn with
  | nil => rfl
  | append_singleton ops op ih =>
    rw [afterOps_concat, ← ih]
    rfl

theorem afterOp_submitQuery (s : Store) (query timestamp : String) :
    (s.afterOp (.submitQuery query timestamp)).session =
      if NonBlank query ∧ s.session.symbol ≠ "" then
        s.session.asked query s.author timestamp
      else s.session := by
  show (s.dispatch (.submitQuery query s.author timestamp)).store.session = _
  rw [dispatch_submitQuery]
  split <;> rfl

/-- The message of a question is the contribution of asking it. -/
theorem asked_eq (s : Session) {query : String} (h : NonBlank query ∧ s.symbol ≠ "")
    (author timestamp : String) :
    s.asked query author timestamp =
      { s with
        transcript :=
          s.transcript ++ StoreOp.contribution author s (.submitQuery query timestamp)
        busy := true } := by
  rw [Session.asked, StoreOp.contribution, if_pos h, ← s.currentRound_eq]
  rfl

/-- **What an operation does to the transcript.** -/
theorem transcript_afterOp (s : Store) (op : StoreOp) :
    (s.afterOp op).session.transcript =
      if op.clears = true then []
      else s.session.transcript ++ op.contribution s.author s.session := by
  cases op with
  | submitQuery query timestamp =>
    rw [afterOp_submitQuery]
    by_cases h : NonBlank query ∧ s.session.symbol ≠ ""
    · rw [if_pos h, asked_eq s.session h]
      rfl
    · rw [if_neg h, StoreOp.contribution, if_neg h, List.append_nil]
      rfl
  | ingest e => exact s.session.transcript_ingest e
  | addMessage m => rfl
  | setSymbol _ | clearHistory | requestClearHistory => rfl
  | setBusy _ | setStatus _ | submissionFailed _ => exact (List.append_nil _).symm

theorem effects_operate (s : Store) (op : StoreOp) :
    (s.operate op).effects = (op.request? s.session).toList := by
  cases op with
  | submitQuery query timestamp =>
    show (s.dispatch (.submitQuery query s.author timestamp)).effects = _
    rw [dispatch_submitQuery, StoreOp.request?]
    split <;> rfl
  | requestClearHistory =>
    show (s.dispatch .requestClearHistory).effects = _
    rw [dispatch_requestClearHistory, StoreOp.request?]
    split <;> rfl
  | setSymbol _ | clearHistory | addMessage _ | setBusy _ | setStatus _ | submissionFailed _
  | ingest _ => rfl

theorem symbol_afterOp (s : Store) (op : StoreOp) :
    (s.afterOp op).session.symbol = op.picked?.getD s.session.symbol := by
  cases op with
  | submitQuery query timestamp =>
    rw [afterOp_submitQuery]
    split <;> rfl
  | ingest e => exact s.session.symbol_ingest e
  | setSymbol _ | clearHistory | requestClearHistory | addMessage _ | setBusy _ | setStatus _
  | submissionFailed _ => rfl

/-! ### Runs -/

theorem transcript_afterOps (author : String) (ops : List StoreOp) :
    ((new author).afterOps ops).session.transcript =
      ((moments afterOp (new author) ops).rtakeWhile fun m => !m.2.clears).flatMap fun m =>
        m.2.contribution author m.1.session := by
  induction ops using List.reverseRecOn with
  | nil => rfl
  | append_singleton ops op ih =>
    rw [afterOps_concat, transcript_afterOp, moments_concat, author_afterOps, ih]
    -- the last operation empties the transcript or adds to what the earlier ones left
    cases hclears : op.clears with
    | true =>
      rw [if_pos rfl, List.rtakeWhile_concat_neg _ _ _ (by simp [hclears])]
      rfl
    | false =>
      rw [List.rtakeWhile_concat_pos _ _ _ (by simp [hclears]), List.flatMap_append]
      simp [afterOps, new]

theorem symbol_afterOps (author : String) (ops : List StoreOp) :
    ((new author).afterOps ops).session.symbol =
      (ops.filterMap StoreOp.picked?).getLast?.getD "" := by
  induction ops using List.reverseRecOn with
  | nil => rfl
  | append_singleton ops op ih =>
    rw [afterOps_concat, symbol_afterOp, ih, List.filterMap_append]
    cases hpicked : op.picked? with
    | none => simp [hpicked]
    | some symbol => simp [hpicked]

end Store

/-- **The transcript and the requests of a run.**  The transcript is what was
    contributed, in order, since it was emptied last.  The requests that are
    returned are those of the accepted questions and of the clearings under a
    symbol, in order.  A question is accepted if it has a character that is not
    blank and the symbol that was picked last is not empty; then its message, the
    activity flag and its request come together, and else the session stays as it
    is.  The text that is passed on is the question without the blanks around
    it. -/
theorem transcript_and_requests_of_run (author : String) (ops : List StoreOp) :
    let run := moments Store.afterOp (Store.new author) ops
    let final := (Store.new author).afterOps ops
    final.session.transcript =
        ((run.rtakeWhile fun m => !m.2.clears).flatMap fun m =>
          m.2.contribution author m.1.session) ∧
      (run.map fun m => (m.1.operate m.2).effects) =
        (run.map fun m => (m.2.request? m.1.session).toList) ∧
      final.session.symbol = (ops.filterMap StoreOp.picked?).getLast?.getD "" ∧
      (∀ m ∈ run, ∀ query timestamp, m.2 = .submitQuery query timestamp →
        (m.1.afterOp m.2).session =
          if NonBlank query ∧ m.1.session.symbol ≠ "" then
            { m.1.session with
              transcript := m.1.session.transcript ++ m.2.contribution author m.1.session
              busy := true }
          else m.1.session) ∧
      ∀ query, IsStripped query (trimBlank query) := by
  refine ⟨Store.transcript_afterOps author ops, ?_, Store.symbol_afterOps author ops, ?_,
    Text.isStripped_trimBlank⟩
  · refine List.map_congr_left ?_
    intro m _
    exact m.1.effects_operate m.2
  · rintro ⟨s, op⟩ hm query timestamp rfl
    obtain ⟨earlier, -, -, hstate⟩ := split_of_mem_moments hm
    have hauthor : s.author = author :=
      (congrArg Store.author hstate).trans (Store.author_afterOps (Store.new author) earlier)
    rw [Store.afterOp_submitQuery, hauthor]
    split
    · next h => exact Store.asked_eq s.session h author timestamp
    · rfl

end MeetingRoom
