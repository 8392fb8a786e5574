/-
  MeetingRoom/Session/Store.lean
  ==============================
  **The owner of a session.**

  All changes go through `Store.dispatch`.  The store counts the actions, so
  that observers notice changes, and keeps count of the events that were
  ignored since the symbol was picked.
-/
import MeetingRoom.Session.Transition

namespace MeetingRoom

/-! ### Ignored events -/

/-- Counts of ignored events. -/
structure DropTally where
  unknownEvents : Nat := 0
  orphanedSteps : Nat := 0
  last : Option DroppedEvent := none
deriving DecidableEq, Repr

namespace DropTally

def record (t : DropTally) (e : DroppedEvent) : DropTally :=
  if e.stepId.isSome then { t with orphanedSteps := t.orphanedSteps + 1, last := some e }
  else { t with unknownEvents := t.unknownEvents + 1, last := some e }

def total (t : DropTally) : Nat := t.unknownEvents + t.orphanedSteps

end DropTally

/-! ### Stores -/

/-- The name of the local user when none is configured. -/
def defaultAuthor : String := "老韭菜"

/-- The owner of one session. -/
structure Store where
  session : Session := {}
  dropped : DropTally := {}
  /-- The number of actions so far. -/
  version : Nat := 0
  /-- The name put on the local user's messages. -/
  author : String := defaultAuthor

/-- What a dispatch leads to. -/
structure Dispatched where
  store : Store
  effects : List Effect
  notices : List Notice

namespace Store

def new (author : String := defaultAuthor) : Store := { author }

/-- The tally after an action, given the session before it. -/
def tallyAfter (s : Store) : Action → DropTally
  | .ingest e =>
    match s.session.dropped? e with
    | some dropped => s.dropped.record dropped
    | none => s.dropped
  | .setSymbol _ => {}
  | _ => s.dropped

/-- What is noted of an action before it is applied. -/
def notedBefore (s : Store) : Action → List Notice
  | .ingest e => ((s.session.dropped? e).map Notice.eventDropped).toList
  | _ => []

def dispatch (s : Store) (a : Action) : Dispatched :=
  let outcome := s.session.apply a
  { store :=
      { s with session := outcome.session, dropped := s.tallyAfter a, version := s.version + 1 }
    effects := outcome.effects
    notices := s.notedBefore a ++ outcome.notices }

def run (s : Store) (as : List Action) : Store :=
  as.foldl (fun s a => (s.dispatch a).store) s

def submitQuery (s : Store) (query timestamp : String) : Dispatched :=
  s.dispatch (.submitQuery query s.author timestamp)

def ingest (s : Store) (e : Event) : Dispatched := s.dispatch (.ingest e)

end Store

end MeetingRoom
