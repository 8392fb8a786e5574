/-
  MeetingRoom/Watch/Run.lean
  ==========================
  **A run of the program from its arguments to what it prints.**

  The run loads the settings, turns to the symbol, clears the transcript if
  that is asked for, starts the meeting and then shows its events until the
  turn ends.  Files, environment, network and clock are given from outside.
-/
import MeetingRoom.Config.File
import MeetingRoom.Server.Client
import MeetingRoom.Watch.Arguments
import MeetingRoom.Watch.ErrorText
import MeetingRoom.Watch.Screen

namespace MeetingRoom.Watch

/-! ### Starting a meeting -/

/-- What was being done when a run failed, and why. -/
structure Abort where
  deed : String
  causes : List String
deriving DecidableEq, Repr

/-- A session whose requests were all carried out. -/
structure Opening where
  store : Store
  /-- The requests, in order. -/
  calls : List Effect := []
  notices : List Notice := []

/-- Turns to the symbol, clears the transcript if that is asked for, and asks
    the question. -/
def opening (server : Server) (store : Store) (a : Arguments) (now : String) :
    Except Abort Opening := do
  let picked := store.switchSymbol a.symbol
  let cleared := if a.clear then picked.store.clearHistory server else { store := picked.store }
  cleared.result.mapError fun f => { deed := "clearing history", causes := f.causes }
  let asked := cleared.store.submit server a.query now
  asked.result.mapError fun f => { deed := "starting meeting", causes := f.causes }
  .ok {
    store := asked.store
    calls := picked.calls ++ cleared.calls ++ asked.calls
    notices := picked.notices ++ cleared.notices ++ asked.notices }

/-! ### Watching -/

/-- What is shown of a meeting. -/
structure Watching where
  lines : List Line
  notices : List Notice
  /-- The turn ended; otherwise the run would wait for further events. -/
  ended : Bool

def closingNotices (t : DropTally) : List Notice :=
  if 0 < t.total then [.eventsIgnored t.unknownEvents t.orphanedSteps] else []

/-- The turn ended with the last event that was applied. -/
def Ended (p : Pumped) : Prop :=
  ∃ o, p.observed.getLast? = some o ∧ o.1.isTerminal = true ∧ o.2.session.busy = false

instance (p : Pumped) : Decidable (Ended p) :=
  match h : p.observed.getLast? with
  | none => isFalse fun ⟨_, ho, _⟩ => by simp [h] at ho
  | some o =>
    if ht : o.1.isTerminal = true ∧ o.2.session.busy = false then isTrue ⟨o, h, ht⟩
    else isFalse fun ⟨o', ho, ht'⟩ => ht (by rw [h] at ho; cases ho; exact ht')

def Opening.watch (o : Opening) (arrivals : List Event) : Watching :=
  let pumped := o.store.pump arrivals
  { lines := screen 0 pumped.observed
    notices := o.notices ++ pumped.notices ++ closingNotices pumped.store.dropped
    ended := decide (Ended pumped) }

/-! ### Runs -/

/-- What surrounds a run. -/
structure Surroundings where
  /-- What is found under a path. -/
  file : String → Config.FileContent
  environment : List (String × String)
  network : Network
  /-- The time of asking. -/
  now : String

/-- How a run ends. -/
inductive Finish where
  | told (text : String)
  | refused (why : UsageProblem)
  | aborted (why : Abort)
  | watched (watching : Watching)

namespace Finish

def code : Finish → UInt32
  | .told _ | .watched _ => 0
  | .aborted _ => 1
  | .refused _ => 2

def output : Finish → String
  | .told text => text
  | .refused _ | .aborted _ => ""
  | .watched w => printed w.lines

def errors : Finish → String
  | .refused why => why.text
  | .aborted why => errorText why.deed why.causes
  | .told _ | .watched _ => ""

end Finish

def settings (around : Surroundings) (a : Arguments) : Except ConfigProblem Config :=
  Config.load (a.config.map fun path => (path, around.file path)) around.environment

/-- Watches a meeting with the given settings. -/
def watchWith (around : Surroundings) (a : Arguments) (c : Config) : Except Abort Watching := do
  let backend ← (Backend.ofConfig c).mapError fun p =>
    { deed := "building meeting backend", causes := p.causes }
  let opened ← opening (backend.server around.network) (.new c.userName) a around.now
  let watching := opened.watch (backend.arrivals around.network opened.calls)
  let read := (backend.deliveries around.network opened.calls).flatMap Delivery.settledNotices
  .ok { watching with notices := read ++ watching.notices }

def watch (around : Surroundings) (a : Arguments) : Except Abort Watching := do
  let c ← (settings around a).mapError fun p =>
    { deed := "loading configuration", causes := p.causes }
  watchWith around a c

def run (around : Surroundings) (arguments : List String) : Finish :=
  match Request.ofArguments arguments with
  | .error why => .refused why
  | .ok .help => .told helpText
  | .ok .version => .told versionText
  | .ok (.watch a) =>
    match watch around a with
    | .error why => .aborted why
    | .ok watching => .watched watching

end MeetingRoom.Watch
