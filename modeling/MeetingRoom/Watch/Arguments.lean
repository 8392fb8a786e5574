/-
  MeetingRoom/Watch/Arguments.lean
  ================================
  **What the command line asks for.**

  A symbol and a question are required; a settings file and the wish to clear
  the transcript first are not.  The arguments are read from left to right, and
  the first thing that is wrong, or that asks for help or the version, decides.
-/
import MeetingRoom.Text.Split

namespace MeetingRoom.Watch

open Text (cut)

/-! ### Options -/

/-- An option with a value. -/
inductive Setting where
  | symbol
  | query
  | config
deriving DecidableEq, Repr

def Setting.name : Setting → String
  | .symbol => "symbol"
  | .query => "query"
  | .config => "config"

/-- An option with its value as it is written in usage texts. -/
def Setting.usage (s : Setting) : String :=
  "--" ++ s.name ++ " <" ++ s.name.toUpper ++ ">"

/-- An option without a value. -/
inductive Switch where
  | clear
  | help
  | version
deriving DecidableEq, Repr

def Switch.name : Switch → String
  | .clear => "clear"
  | .help => "help"
  | .version => "version"

/-- What an option is. -/
inductive Known where
  | setting (s : Setting)
  | switch (s : Switch)
deriving DecidableEq, Repr

def Known.ofName? (name : String) : Option Known :=
  ([Setting.symbol, .query, .config].find? (·.name == name)).map Known.setting <|>
    ([Switch.clear, .help, .version].find? (·.name == name)).map Known.switch

def Known.ofLetter? : Char → Option Known
  | 's' => some (.setting .symbol)
  | 'q' => some (.setting .query)
  | 'c' => some (.setting .config)
  | 'h' => some (.switch .help)
  | 'V' => some (.switch .version)
  | _ => none

/-! ### Problems -/

/-- Why the command line is refused. -/
inductive UsageProblem where
  | unexpected (argument : String)
  | valueMissing (option : Setting)
  | valueUnneeded (option : Switch) (value : String)
  | repeated (usage : String)
  | required (options : List Setting)
deriving DecidableEq, Repr

def usageLine : String := "Usage: meeting-watch [OPTIONS] --symbol <SYMBOL> --query <QUERY>"

def UsageProblem.summary : UsageProblem → String
  | .unexpected argument => "unexpected argument '" ++ argument ++ "' found"
  | .valueMissing option =>
    "a value is required for '" ++ option.usage ++ "' but none was supplied"
  | .valueUnneeded option value =>
    "unexpected value '" ++ value ++ "' for '--" ++ option.name ++ "' found; no more were expected"
  | .repeated usage => "the argument '" ++ usage ++ "' cannot be used multiple times"
  | .required options =>
    "the following required arguments were not provided:" ++
      String.join (options.map fun o => "\n  " ++ o.usage)

def UsageProblem.text (p : UsageProblem) : String :=
  "error: " ++ p.summary ++ "\n\n" ++ usageLine ++ "\n\nFor more information, try '--help'.\n"

/-! ### Reading -/

/-- What the user wants to watch. -/
structure Arguments where
  symbol : String
  query : String
  config : Option String := none
  clear : Bool := false
deriving DecidableEq, Repr

/-- What the command line asks for. -/
inductive Request where
  | watch (arguments : Arguments)
  | help
  | version
deriving DecidableEq, Repr

/-- What was given so far. -/
structure Given where
  symbol : Option String := none
  query : Option String := none
  config : Option String := none
  clear : Bool := false
deriving DecidableEq, Repr

namespace Given

def value? (g : Given) : Setting → Option String
  | .symbol => g.symbol
  | .query => g.query
  | .config => g.config

/-- Gives an option its value.  The path of a file is not empty. -/
def put (g : Given) (s : Setting) (value : String) : Except UsageProblem Given :=
  if (g.value? s).isSome then .error (.repeated s.usage)
  else if s = .config ∧ value.isEmpty then .error (.valueMissing s)
  else .ok <| match s with
    | .symbol => { g with symbol := some value }
    | .query => { g with query := some value }
    | .config => { g with config := some value }

/-- What is asked for when all arguments are read. -/
def finish (g : Given) : Except UsageProblem Request :=
  match g.symbol, g.query with
  | some symbol, some query => .ok (.watch { symbol, query, config := g.config, clear := g.clear })
  | _, _ => .error (.required ([Setting.symbol, .query].filter fun s => (g.value? s).isNone))

end Given

/-- What an argument leads to: the reading goes on, perhaps with a value, or it
    is decided. -/
inductive Progress where
  | going (given : Given) (pending : Option Setting)
  | decided (request : Request)

def Progress.ofSwitch (g : Given) : Switch → Except UsageProblem Progress
  | .clear =>
    if g.clear then .error (.repeated "--clear") else .ok (.going { g with clear := true } none)
  | .help => .ok (.decided .help)
  | .version => .ok (.decided .version)

/-- An option by its name: `cs` is what follows the two hyphens. -/
def Progress.ofLong (g : Given) (cs : List Char) : Except UsageProblem Progress :=
  let (name, value) := cut (· == '=') cs
  match Known.ofName? (String.ofList name), value with
  | none, _ => .error (.unexpected ("--" ++ String.ofList name))
  | some (.setting s), none => .ok (.going g (some s))
  | some (.setting s), some v => do .ok (.going (← g.put s (String.ofList v)) none)
  | some (.switch s), none => ofSwitch g s
  | some (.switch s), some v => .error (.valueUnneeded s (String.ofList v))

/-- An option by its letter: `cs` is what follows the hyphen.  What follows the
    letter is the value; an equals sign before the value is left out. -/
def Progress.ofShort (g : Given) : List Char → Except UsageProblem Progress
  | [] => .ok (.going g none)
  | c :: rest =>
    match Known.ofLetter? c, rest with
    | none, _ => .error (.unexpected ("-" ++ c.toString))
    | some (.setting s), [] => .ok (.going g (some s))
    | some (.setting s), '=' :: v => do .ok (.going (← g.put s (String.ofList v)) none)
    | some (.setting s), v => do .ok (.going (← g.put s (String.ofList v)) none)
    | some (.switch s), _ => ofSwitch g s

/-- Whether an argument starts an option, so that it is not taken as a value.
    A single hyphen is a value. -/
def startsOption (argument : String) : Bool :=
  match argument.toList with
  | '-' :: _ :: _ => true
  | _ => false

/-- Reads the arguments; `pending` is the option that waits for its value. -/
def readFrom (g : Given) (pending : Option Setting) :
    List String → Except UsageProblem Request
  | [] =>
    match pending with
    | some s => .error (.valueMissing s)
    | none => g.finish
  | argument :: rest =>
    match pending with
    | some s =>
      if startsOption argument then .error (.valueMissing s)
      else do readFrom (← g.put s argument) none rest
    | none => do
      let progress ←
        match argument.toList with
        | ['-', '-'] =>
          match rest with
          | [] => .ok (.going g none)
          | extra :: _ => .error (.unexpected extra)
        | '-' :: '-' :: cs => Progress.ofLong g cs
        | '-' :: c :: cs => Progress.ofShort g (c :: cs)
        | _ => .error (.unexpected argument)
      match progress with
      | .decided request => .ok request
      | .going g pending => readFrom g pending rest

def Request.ofArguments (arguments : List String) : Except UsageProblem Request :=
  readFrom {} none arguments

/-! ### Texts -/

def helpText : String :=
  "Follow a meeting-room discussion from the terminal\n\n" ++ usageLine ++ "\n\nOptions:\n" ++
  "  -s, --symbol <SYMBOL>  Symbol to discuss, e.g. US:AAPL\n" ++
  "  -q, --query <QUERY>    Question for the panel\n" ++
  "  -c, --config <CONFIG>  Optional TOML config file\n" ++
  "      --clear            Clear the server-side transcript before asking\n" ++
  "  -h, --help             Print help\n" ++
  "  -V, --version          Print version\n"

def versionText : String := "meeting-watch 0.1.0\n"

end MeetingRoom.Watch
