/-
  MeetingRoom/Failure.lean
  ========================
  **Why the client fails.**

  A failure has a wording of its own and, where something lies behind it, a
  chain of causes from the outside in; `Failure.causes` begins with the
  failure itself.
-/
import MeetingRoom.HttpStatus

namespace MeetingRoom

/-! ### Configuration -/

/-- Why a configuration file cannot be read. -/
inductive FileProblem where
  | notFound
  | isDirectory
  | notDirectory
  | nameTooLong
  | nameHasZero
  | notText
deriving DecidableEq, Repr

def FileProblem.message : FileProblem → String
  | .notFound => "No such file or directory (os error 2)"
  | .isDirectory => "Is a directory (os error 21)"
  | .notDirectory => "Not a directory (os error 20)"
  | .nameTooLong => "File name too long (os error 36)"
  | .nameHasZero => "file name contained an unexpected NUL byte"
  | .notText => "stream did not contain valid UTF-8"

/-- Why the text of a configuration file is refused: it is malformed, or a
    field has the wrong type. -/
inductive SettingsProblem where
  | malformed
  | unfit (message : String)
deriving DecidableEq, Repr

/-- Why there is no usable configuration. -/
inductive ConfigProblem where
  | read (path : String) (why : FileProblem)
  | parse (path : String) (why : SettingsProblem)
  | url (raw reason : String)
deriving DecidableEq, Repr

namespace ConfigProblem

/-- The wording of the problem.  What exactly is malformed is not part of it. -/
def message : ConfigProblem → String
  | .read path why => "failed to read config file " ++ path ++ ": " ++ why.message
  | .parse path .malformed => "invalid config file " ++ path
  | .parse path (.unfit why) => "invalid config file " ++ path ++ ": " ++ why
  | .url raw reason => "invalid URL `" ++ raw ++ "`: " ++ reason

def causes (p : ConfigProblem) : List String :=
  match p with
  | .read _ why => [p.message, why.message]
  | .parse _ .malformed => [p.message]
  | .parse _ (.unfit why) => [p.message, why]
  | .url _ _ => [p.message]

end ConfigProblem

/-! ### Connections -/

/-- Why there is no way to a server. -/
inductive ReachProblem where
  | noRoute
  | noSource
  | scopeMissing
  | nameUnknown
  | nameUnfit
deriving DecidableEq, Repr

namespace ReachProblem

/-- The wording of the problem, which is that of the operating system. -/
def message : ReachProblem → String
  | .noRoute => "Network is unreachable (os error 101)"
  | .noSource => "Cannot assign requested address (os error 99)"
  | .scopeMissing => "Invalid argument (os error 22)"
  | .nameUnknown =>
    "failed to lookup address information: Temporary failure in name resolution"
  | .nameUnfit => "failed to lookup address information: Name or service not known"

def attempt : ReachProblem → String
  | .noRoute | .noSource | .scopeMissing => "tcp connect error"
  | .nameUnknown | .nameUnfit => "dns error"

end ReachProblem

/-- Why an address cannot stand in a request. -/
inductive TargetProblem where
  | tooLong
  | schemeTooLong
  | characterInvalid
  | authorityInvalid
  | formInvalid
deriving DecidableEq, Repr

def TargetProblem.message : TargetProblem → String
  | .tooLong => "uri too long"
  | .schemeTooLong => "scheme too long"
  | .characterInvalid => "invalid uri character"
  | .authorityInvalid => "invalid authority"
  | .formInvalid => "invalid format"

/-- Why a request got no answer. -/
inductive TransportProblem where
  | unsupportedScheme
  | targetInvalid
  | unreachable (why : ReachProblem)
  | hungUp
deriving DecidableEq, Repr

namespace TransportProblem

def deed : TransportProblem → String
  | .unsupportedScheme | .targetInvalid => "builder error"
  | .unreachable _ | .hungUp => "error sending request"

/-- What lies behind a request without an answer, from the outside in. -/
def causes : TransportProblem → List String
  | .unsupportedScheme => ["URL scheme is not allowed"]
  | .targetInvalid => ["Parsed Url is not a valid Uri"]
  | .unreachable why => ["client error (Connect)", why.attempt, why.message]
  | .hungUp => ["client error (SendRequest)", "connection closed before message completed"]

end TransportProblem

/-- Why the event stream did not open, or broke. -/
inductive SocketProblem where
  | target (why : TargetProblem)
  | unsupportedScheme
  | unreachable (why : ReachProblem)
  | refused (answer : HttpStatus)
  | brokenOff
deriving DecidableEq, Repr

namespace SocketProblem

def kind : SocketProblem → String
  | .target _ => "HTTP format error"
  | .unsupportedScheme => "URL error"
  | .unreachable _ => "IO error"
  | .refused _ => "HTTP error"
  | .brokenOff => "WebSocket protocol error"

def detail : SocketProblem → String
  | .target why => why.message
  | .unsupportedScheme => "URL scheme not supported"
  | .unreachable why => why.message
  | .refused answer => answer.text
  | .brokenOff => "Connection reset without closing handshake"

def message (p : SocketProblem) : String := p.kind ++ ": " ++ p.detail

/-- The problem and what lies behind it.  A refusal has nothing behind it. -/
def causes (p : SocketProblem) : List String :=
  match p with
  | .refused _ => [p.message]
  | _ => [p.message, p.detail]

end SocketProblem

/-! ### Failures -/

/-- Why the client fails. -/
inductive Failure where
  /-- A request got no answer. -/
  | transport (url : String) (why : TransportProblem)
  /-- A request was answered, but not carried out. -/
  | status (action : String) (answer : HttpStatus)
  | socket (why : SocketProblem)
  | config (why : ConfigProblem)
deriving DecidableEq, Repr

namespace Failure

/-- The wording of a request without an answer. -/
def sending (url : String) (why : TransportProblem) : String :=
  why.deed ++ " for url (" ++ url ++ ")"

def message : Failure → String
  | .transport url why => "request failed: " ++ sending url why
  | .status action answer => action ++ " failed: HTTP " ++ answer.text
  | .socket why => "websocket error: " ++ why.message
  | .config why => why.message

/-- The failure and what lies behind it, from the outside in. -/
def causes (f : Failure) : List String :=
  match f with
  | .transport url why => f.message :: sending url why :: why.causes
  | .status _ _ => [f.message]
  | .socket why => f.message :: why.causes
  | .config why => why.causes

end Failure

end MeetingRoom
