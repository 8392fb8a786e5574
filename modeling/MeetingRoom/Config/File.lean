/-
  MeetingRoom/Config/File.lean
  ============================
  **Settings from a file.**

  The definitions of the file are looked at in their order, so the first one of
  the wrong type is reported.  Names that are no settings are ignored.
-/
import MeetingRoom.Config
import MeetingRoom.Text.Utf8
import MeetingRoom.Toml.Parse

namespace MeetingRoom

namespace Config

open Toml (Node)

def textSetting : Node → Except SettingsProblem String
  | .text s => .ok s
  | other => .error (.unfit ("invalid type: " ++ other.describe ++ ", expected a string"))

def numberSetting : Node → Except SettingsProblem UInt64
  | .whole n =>
    if 0 ≤ n then .ok (UInt64.ofNat n.toNat)
    else .error (.unfit ("invalid value: " ++ (Node.whole n).describe ++ ", expected u64"))
  | other => .error (.unfit ("invalid type: " ++ other.describe ++ ", expected u64"))

def set (c : Config) (definition : String × Node) : Except SettingsProblem Config :=
  let (name, node) := definition
  if name = "base_url" then do
    let s ← textSetting node
    .ok { c with baseUrl := s }
  else if name = "ws_url" then do
    let s ← textSetting node
    .ok { c with wsUrl := some s }
  else if name = "request_timeout_secs" then do
    let n ← numberSetting node
    .ok { c with requestTimeout := n }
  else if name = "user_name" then do
    let s ← textSetting node
    .ok { c with userName := s }
  else .ok c

def ofText (text : String) : Except SettingsProblem Config :=
  match Toml.parse? text with
  | some definitions => definitions.foldlM set {}
  | none => .error .malformed

/-- What reading a file gives. -/
abbrev FileContent := Except FileProblem (List UInt8)

def ofFile (path : String) (content : FileContent) : Except ConfigProblem Config := do
  let bytes ← content.mapError (.read path)
  match Text.Utf8.decode bytes with
  | .error _ => .error (.read path .notText)
  | .ok text => (ofText text).mapError (.parse path)

/-- The settings to use: the standard ones or those of a file, then the
    environment. -/
def load (file : Option (String × FileContent)) (environment : List (String × String)) :
    Except ConfigProblem Config := do
  let c ← match file with
    | some (path, content) => ofFile path content
    | none => .ok {}
  .ok (c.applyEnvironment environment)

end Config

end MeetingRoom
