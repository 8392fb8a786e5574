/-
  MeetingRoom/Server/Address.lean
  ===============================
  **The addresses that the client asks.**

  Requests go to a path under the base address, and the event stream has one
  address of its own.  Symbol and question travel as pairs in the query.
-/
import MeetingRoom.Config
import MeetingRoom.Url

namespace MeetingRoom

open Text (trimEnd trimStart)

/-- The address that a text names, with pairs in its query. -/
def addressOf (raw : String) (pairs : List (String × String)) : Except ConfigProblem Url :=
  match Url.parse raw with
  | .ok url => .ok (url.withPairs pairs)
  | .error why => .error (.url raw why.message)

/-- Where requests go. -/
structure RestRoot where
  base : String
deriving DecidableEq, Repr

namespace RestRoot

def new (base : String) : RestRoot := { base := trimEnd '/' base }

def ofConfig (c : Config) : RestRoot := { base := c.restBase }

def endpoint (r : RestRoot) (path : String) (pairs : List (String × String)) :
    Except ConfigProblem Url :=
  addressOf (r.base ++ "/" ++ trimStart '/' path) pairs

end RestRoot

/-- The address of the event stream of a meeting. -/
def meetingUrl (wsBase symbol query : String) : Except ConfigProblem Url :=
  addressOf (trimEnd '/' wsBase ++ "/ws/meeting") [("symbol_key", symbol), ("query", query)]

end MeetingRoom
