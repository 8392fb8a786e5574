/-
  MeetingRoom/Config.lean
  =======================
  **Where the meeting server is, and how to talk to it.**

  The standard settings are overridden by a file, and both by the environment.
  The address of the event stream follows from the base address unless it is
  given.
-/
import MeetingRoom.Failure
import MeetingRoom.Json.Codec
import MeetingRoom.Session.Store
import MeetingRoom.Text.Trim

namespace MeetingRoom

open Json (Codec Fields)
open Text (trimEnd)

/-- The settings of the client. -/
structure Config where
  baseUrl : String := "http://localhost:8000/api"
  /-- Follows from the base address unless it is given. -/
  wsUrl : Option String := none
  /-- In seconds. -/
  requestTimeout : UInt64 := 30
  userName : String := defaultAuthor
deriving DecidableEq

namespace Config

/-! ### Settings as data -/

def fields : Fields :=
  .cons "base_url" .optional .text <|
  .cons "ws_url" .optional (.nullable .text) <|
  .cons "request_timeout_secs" .optional .word64 <|
  .cons "user_name" .optional .text .nil

/-- Settings as data; what is left out has its standard value. -/
def codec : Codec Config where
  shape := .record "ClientConfig" fields
  ofData
    | (baseUrl, wsUrl, requestTimeout, userName, ()) =>
      let standard : Config := {}
      { baseUrl := baseUrl.getD standard.baseUrl
        wsUrl := wsUrl.join
        requestTimeout := requestTimeout.getD standard.requestTimeout
        userName := userName.getD standard.userName }
  toData c := (some c.baseUrl, some c.wsUrl, some c.requestTimeout, some c.userName, ())
  ofData_toData _ := rfl

/-! ### The environment -/

def baseUrlVariable : String := "MEETING_BASE_URL"

/-- The variable for the address of the event stream. -/
def wsUrlVariable : String := "MEETING_WS_URL"

/-- One variable of the environment; an empty value is no value. -/
def setVariable (c : Config) (entry : String × String) : Config :=
  if entry.2.isEmpty then c
  else if entry.1 = baseUrlVariable then { c with baseUrl := entry.2 }
  else if entry.1 = wsUrlVariable then { c with wsUrl := some entry.2 }
  else c

/-- The settings after the variables of the environment, in order. -/
def applyEnvironment (c : Config) (environment : List (String × String)) : Config :=
  environment.foldl setVariable c

/-- The last value of each variable, as a process sees it. -/
def lastOfEach (environment : List (String × String)) : List (String × String) :=
  (Dictionary.ofList environment).entries

/-! ### Addresses -/

/-- The base address of requests: without slashes at its end. -/
def restBase (c : Config) : String := trimEnd '/' c.baseUrl

/-- What is left of a text after a start that it has. -/
def afterStart? (start s : String) : Option String :=
  if start.toList.isPrefixOf s.toList then some (String.ofList (s.toList.drop start.length))
  else none

/-- The base address of the event stream: as given, or that of requests with
    the scheme that goes with it. -/
def wsBase (c : Config) : Except ConfigProblem String :=
  match c.wsUrl with
  | some url => .ok (trimEnd '/' url)
  | none =>
    match afterStart? "https://" c.restBase, afterStart? "http://" c.restBase with
    | some rest, _ => .ok ("wss://" ++ rest)
    | none, some rest => .ok ("ws://" ++ rest)
    | none, none => .error (.url c.baseUrl "expected an http:// or https:// base URL")

end Config

end MeetingRoom
