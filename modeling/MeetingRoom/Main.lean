/-
  MeetingRoom/Main.lean
  =====================
  **The program `meeting-watch`.**

  The event stream of the meeting is read from standard input, one text frame a
  line; its end is the end of the stream.  The time of asking is left empty, as
  the terminal does not show it.
-/
import MeetingRoom.Watch.Run

namespace MeetingRoom.Watch

/-- What is found under the path of a settings file, if one is named. -/
def settingsContent (arguments : List String) : IO Config.FileContent := do
  match Request.ofArguments arguments with
  | .ok (.watch { config := some path, .. }) =>
    try
      return .ok (← IO.FS.readBinFile path).toList
    catch
      | .inappropriateType .. => return .error .isDirectory
      | .noFileOrDirectory .. => return .error .notFound
      | e => throw e
  | _ => return .error .notFound

/-- The frames on standard input, if a meeting is to be watched. -/
def inputFrames (arguments : List String) : IO (List Frame) := do
  match Request.ofArguments arguments with
  | .ok (.watch _) => return (← (← IO.getStdin).lines).toList.map Frame.text
  | _ => return []

/-- The variables of the environment that are settings. -/
def environment : IO (List (String × String)) := do
  let names := [Config.baseUrlVariable, Config.wsUrlVariable]
  names.filterMapM fun name => return (← IO.getEnv name).map (name, ·)

def noticeText (n : Notice) : String :=
  n.severity.name ++ " " ++ n.message ++
    String.join (n.details.map fun d => " " ++ d.1 ++ "=" ++ d.2)

def report (finish : Finish) : IO UInt32 := do
  IO.print finish.output
  if let .watched w := finish then
    for n in w.notices do
      IO.eprintln (noticeText n)
  IO.eprint finish.errors
  return finish.code

end MeetingRoom.Watch

open MeetingRoom MeetingRoom.Watch in
def main (arguments : List String) : IO UInt32 := do
  let content ← settingsContent arguments
  let frames ← inputFrames arguments
  report (run {
    file := fun _ => content
    environment := ← environment
    network := .replaying { frames }
    now := "" } arguments)
