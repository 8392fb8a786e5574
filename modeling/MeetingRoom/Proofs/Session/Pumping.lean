/-
  MeetingRoom/Proofs/Session/Pumping.lean
  =======================================
  **What the pump applies, and what it leaves in the queue.**

  The pump stops after a terminal event that leaves the session idle.  Since
  every terminal event leaves every session idle, the flag decides nothing: the
  pump applies the events up to the first terminal one, and all of them if there
  is none (`pump_applies_turn`).

  The queue is split before its first terminal event.  Up to there the pump
  ingests one event after the other (`Store.pump_append`); at a terminal event it
  stops (`Store.pump_cons_of_terminal`).
-/
import MeetingRoom.Proofs.Session.Activity

namespace MeetingRoom

/-! ### Turns -/

/-- The events end with a terminal one. -/
def EndsTurn (es : List Event) : Prop :=
  ∃ last, es.getLast? = some last ∧ last.isTerminal = true

/-- The shortest prefix of the queue that ends a turn, or the whole queue if no
    prefix does. -/
def IsTurnOf (applied queue : List Event) : Prop :=
  (EndsTurn applied ∧ applied <+: queue ∧
      ∀ es, es <+: queue → EndsTurn es → applied.length ≤ es.length) ∨
    (applied = queue ∧ ∀ es, es <+: queue → ¬ EndsTurn es)

theorem not_endsTurn_of_forall {es : List Event} (h : ∀ e ∈ es, e.isTerminal = false) :
    ¬ EndsTurn es := by
  rintro ⟨last, hlast, hterminal⟩
  rw [h last (List.mem_of_getLast? hlast)] at hterminal
  cases hterminal

theorem isTurnOf_of_terminal {before : List Event} {last : Event}
    (hbefore : ∀ e ∈ before, e.isTerminal = false) (hlast : last.isTerminal = true)
    (after : List Event) : IsTurnOf (before ++ [last]) (before ++ last :: after) := by
  refine .inl ⟨⟨last, by simp, hlast⟩, ⟨after, by simp⟩, ?_⟩
  intro es hqueue hends
  -- a shorter prefix holds no event but those before the first terminal one
  refine Classical.byContradiction fun hshort => ?_
  have hle : es.length ≤ before.length := by
    rw [List.length_append, List.length_singleton] at hshort
    omega
  have hes : es <+: before := List.prefix_of_prefix_length_le hqueue ⟨_, rfl⟩ hle
  exact not_endsTurn_of_forall (fun e he => hbefore e (hes.subset he)) hends

theorem isTurnOf_self {queue : List Event} (h : ∀ e ∈ queue, e.isTerminal = false) :
    IsTurnOf queue queue := by
  refine .inr ⟨rfl, ?_⟩
  intro es hqueue
  exact not_endsTurn_of_forall fun e he => h e (hqueue.subset he)

/-! ### The flag tells terminal events -/

theorem Event.isTerminal_iff_busy_ingest (e : Event) :
    e.isTerminal = true ↔ ∀ s : Session, (s.ingest e).1.busy = false := by
  constructor
  · intro h s
    exact s.busy_ingest_of_terminal h
  · intro h
    cases hterminal : e.isTerminal with
    | true => rfl
    | false =>
      -- a busy session stays busy under any other event
      let s : Session := { busy := true }
      have hbusy : (s.ingest e).1.busy = true := s.busy_ingest_of_not_terminal hterminal
      rw [h s] at hbusy
      cases hbusy

/-! ### Observations -/

namespace Store

theorem length_observations (s : Store) (es : List Event) :
    (s.observations es).length = es.length := by
  induction es generalizing s with
  | nil => rfl
  | cons e rest ih => rw [observations, List.length_cons, ih, List.length_cons]

theorem getElem?_observations (s : Store) (es : List Event) (i : Nat) :
    (s.observations es)[i]? = es[i]?.map fun e => (e, s.ingestAll (es.take (i + 1))) := by
  induction es generalizing s i with
  | nil => rfl
  | cons e rest ih =>
    cases i with
    | zero => rfl
    | succ i =>
      rw [observations, List.getElem?_cons_succ, ih, List.getElem?_cons_succ, List.take_succ_cons]
      rfl

theorem version_of_getElem?_observations {s : Store} {es : List Event} {i : Nat}
    {seen : Event × Store} (h : (s.observations es)[i]? = some seen) :
    seen.2.version = s.version + i + 1 := by
  rw [getElem?_observations] at h
  obtain ⟨e, he, rfl⟩ := Option.map_eq_some_iff.1 h
  obtain ⟨hi, _⟩ := List.getElem?_eq_some_iff.1 he
  rw [version_ingestAll, List.length_take]
  omega

theorem observations_concat (s : Store) (es : List Event) (e : Event) :
    s.observations (es ++ [e]) =
      s.observations es ++ [(e, ((s.ingestAll es).ingest e).store)] := by
  induction es generalizing s with
  | nil => rfl
  | cons x rest ih => rw [List.cons_append, observations, ih, observations, ingestAll_cons]; rfl

/-- The count goes up with each event that is observed. -/
theorem applied_pump (s : Store) (queue : List Event) :
    (s.pump queue).applied = (s.pump queue).observed.length := by
  induction queue generalizing s with
  | nil => rfl
  | cons e rest ih =>
    cases h : e.isTerminal with
    | true =>
      rw [s.pump_cons_of_terminal h]
      rfl
    | false => rw [s.pump_cons_of_not_terminal h, ih, List.length_cons]

theorem exists_turn (s : Store) (queue : List Event) :
    ∃ applied left, queue = applied ++ left ∧ IsTurnOf applied queue ∧
      (s.pump queue).store = s.ingestAll applied ∧ (s.pump queue).left = left ∧
      (s.pump queue).observed = s.observations applied := by
  by_cases h : ∃ e ∈ queue, e.isTerminal = true
  · obtain ⟨before, last, after, rfl, hbefore, hlast⟩ := exists_first_terminal h
    obtain ⟨hstore, hleft, hobserved⟩ := pump_append hbefore s (last :: after)
    rw [(s.ingestAll before).pump_cons_of_terminal hlast after] at hstore hleft hobserved
    refine ⟨before ++ [last], after, by simp, isTurnOf_of_terminal hbefore hlast after, ?_,
      hleft, ?_⟩
    · rw [hstore, ingestAll_concat]
    · rw [hobserved, observations_concat]
  · have hnone : ∀ e ∈ queue, e.isTerminal = false := by
      intro e he
      exact Bool.eq_false_iff.2 fun hterminal => h ⟨e, he, hterminal⟩
    obtain ⟨hstore, hleft, hobserved⟩ := pump_append hnone s []
    rw [List.append_nil] at hstore hleft hobserved
    refine ⟨queue, [], by simp, isTurnOf_self hnone, hstore, hleft, ?_⟩
    rw [hobserved]
    exact List.append_nil _

end Store

/-- **What the pump applies.**  An event is terminal if and only if it leaves every
    session idle, and the others leave the activity flag as it is.  So whatever
    the flag was before, the pump applies the shortest prefix of the queue that
    ends with a terminal event, or the whole queue if there is none, counts its
    events, leaves the rest in order, and shows each applied event once, in order,
    with the store just after it. -/
theorem pump_applies_turn (s : Store) (queue : List Event) :
    (∀ e : Event,
      (e.isTerminal = true ↔ ∀ t : Session, (t.ingest e).1.busy = false) ∧
        (e.isTerminal = false → ∀ t : Session, (t.ingest e).1.busy = t.busy)) ∧
      ∃ applied left, queue = applied ++ left ∧ IsTurnOf applied queue ∧
        (s.pump queue).store = s.ingestAll applied ∧
        (s.pump queue).left = left ∧
        (s.pump queue).applied = applied.length ∧
        (s.pump queue).observed.length = applied.length ∧
        (∀ i, (s.pump queue).observed[i]? =
          applied[i]?.map fun e => (e, s.ingestAll (applied.take (i + 1)))) ∧
        ∀ i seen, (s.pump queue).observed[i]? = some seen →
          seen.2.version = s.version + i + 1 := by
  refine ⟨?_, ?_⟩
  · intro e
    exact ⟨e.isTerminal_iff_busy_ingest, fun h t => t.busy_ingest_of_not_terminal h⟩
  · obtain ⟨applied, left, hqueue, hturn, hstore, hleft, hobserved⟩ := s.exists_turn queue
    have hlength : (s.pump queue).observed.length = applied.length := by
      rw [hobserved, Store.length_observations]
    refine ⟨applied, left, hqueue, hturn, hstore, hleft, ?_, hlength, ?_, ?_⟩
    · rw [s.applied_pump, hlength]
    · intro i
      rw [hobserved, Store.getElem?_observations]
    · intro i seen hseen
      rw [hobserved] at hseen
      exact Store.version_of_getElem?_observations hseen

end MeetingRoom
