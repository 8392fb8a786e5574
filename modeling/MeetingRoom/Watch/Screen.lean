/-
  MeetingRoom/Watch/Screen.lean
  =============================
  **What the terminal shows of a meeting.**

  After each event the messages that are new in the transcript are shown, and
  then what the event itself brings: the status line, a plan with its steps,
  the step a tool works on, or the report.  The lines are data; `Line.text` is
  how one is printed.
-/
import MeetingRoom.Session.Host

namespace MeetingRoom.Watch

/-- What is printed at once. -/
inductive Line where
  | message (author content : String)
  | status (text : String)
  | plan (id : Int64) (objective : String)
  | requester (name : String)
  | step (step : LiveStep)
  | report (title thesis conclusion : String)

def marker : StepStatus → String
  | .pending => "[ ]"
  | .running => "[~]"
  | .completed => "[x]"
  | .error => "[!]"

/-- A step in one line: how far it is, and what its tool reported. -/
def describeStep (s : LiveStep) : String :=
  marker s.status ++ " " ++ s.spec.stepId ++ " (" ++ s.spec.toolName ++ ")" ++
    (match s.quality with
      | some q => " quality=" ++ q.name
      | none => "") ++
    (match s.error with
      | some e => " error=" ++ e
      | none => "")

/-- The text of a line, without the line end after it. -/
def Line.text : Line → String
  | .message author content => "\n[" ++ author ++ "] " ++ content
  | .status text => "-- " ++ text
  | .plan id objective => "\n== Plan #" ++ toString id.toInt ++ ": " ++ objective
  | .requester name => "   requested by " ++ name
  | .step s => "   " ++ describeStep s
  | .report title thesis conclusion =>
    "\n== " ++ title ++ "\n" ++ thesis ++ "\n\n" ++ conclusion

def Line.ofMessage (m : Message) : Line := .message m.agentName m.content

/-- What an event itself brings, given the session after it. -/
def eventLines (e : Event) (s : Session) : List Line :=
  match e with
  | .status _ | .error _ | .finished _ => [.status s.statusLine]
  | .planGenerated p =>
    .plan p.id p.objective :: (p.requester.map Line.requester).toList ++
      (s.stepsOf p.id).map Line.step
  | .toolStart _ | .toolComplete _ | .toolError _ =>
    ((e.stepId?.bind s.step?).map Line.step).toList
  | .report r => [.report r.title r.thesis r.conclusion]
  | .message _ | .stateChange _ | .unknown _ _ => []

/-- The lines of the messages from an index on. -/
def newMessages (printed : Nat) (s : Session) : List Line :=
  (s.transcript.drop printed).map Line.ofMessage

/-- All lines of a pump; `printed` messages were shown before. -/
def screen (printed : Nat) : List (Event × Store) → List Line
  | [] => []
  | (e, store) :: rest =>
    newMessages printed store.session ++ eventLines e store.session ++
      screen store.session.transcript.length rest

def printed (lines : List Line) : String := String.join (lines.map fun l => l.text ++ "\n")

end MeetingRoom.Watch
