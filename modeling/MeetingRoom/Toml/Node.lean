/-
  MeetingRoom/Toml/Node.lean
  ==========================
  **What a configuration text defines.**

  A document is a table of nodes in the order of their definition.  A table
  remembers how it came about, since that decides what may still be added:

  - an *implicit* table was only passed through on the way to another one;
  - a *dotted* table was passed through by a dotted key;
  - an *inline* table is complete where it stands.

  Every rule about what may be defined twice is in this file.  A definition
  that breaks one has no result.
-/
import MeetingRoom.Decimal.Shortest
import MeetingRoom.Text.Quoted

namespace MeetingRoom.Toml

open MeetingRoom.Decimal (Double Layout)

/-- A number with a fraction or an exponent, or one of the named numbers. -/
inductive Real where
  | finite (value : Double)
  | infinite (negative : Bool)
  | notANumber
deriving DecidableEq

/-- How a table came about. -/
structure Origin where
  implicit : Bool := false
  dotted : Bool := false
  inline : Bool := false
deriving DecidableEq, Repr

/-- A node of a document. -/
inductive Node where
  | text (value : String)
  | whole (value : Int)
  | real (value : Real)
  | flag (value : Bool)
  /-- A date, a time, or both. -/
  | moment
  | list (items : List Node)
  | table (origin : Origin) (entries : List (String × Node))
  /-- Tables that are defined one after the other under one name. -/
  | tables (items : List Node)

namespace Node

/-- The words for a node found where another was wanted. -/
def describe : Node → String
  | .text s => "string " ++ Text.quoted s
  | .whole n => "integer `" ++ toString n ++ "`"
  | .real (.finite d) => "floating point `" ++ d.format Layout.plain ++ "`"
  | .real (.infinite negative) => "floating point `" ++ (if negative then "-inf" else "inf") ++ "`"
  | .real .notANumber => "floating point `NaN`"
  | .flag b => "boolean `" ++ (if b then "true" else "false") ++ "`"
  | .moment | .table _ _ => "map"
  | .list _ | .tables _ => "sequence"

/-! ### Entries in the order of definition -/

def find? (name : String) (entries : List (String × Node)) : Option Node :=
  (entries.find? (·.1 == name)).map Prod.snd

/-- Replaces the node under a name, or adds it at the end. -/
def put (name : String) (node : Node) (entries : List (String × Node)) : List (String × Node) :=
  if (find? name entries).isSome then
    entries.map fun e => if e.1 == name then (name, node) else e
  else entries ++ [(name, node)]

def remove (name : String) (entries : List (String × Node)) : List (String × Node) :=
  entries.filter (·.1 != name)

/-! ### Definitions within tables -/

/-- Changes the table at the end of a path, making the tables on the way that
    do not exist yet.  Of several tables under one name the last is meant.  A
    dotted key only passes through implicit tables. -/
def within (dotted : Bool) (change : Node → Option Node) : List String → Node → Option Node
  | [], node => change node
  | name :: path, .table origin entries => do
    let child := (find? name entries).getD (.table { implicit := true, dotted } [])
    let child ← match child with
      | .table inner es =>
        if inner.inline || (dotted && !inner.implicit) then none
        else within dotted change path (.table inner es)
      | .tables items => do
        let last ← items.getLast?
        let last ← within dotted change path last
        some (.tables (items.dropLast ++ [last]))
      | _ => none
    some (.table origin (put name child entries))
  | _ :: _, _ => none

/-- Adds a new entry to a table that a key led to: a plain key leads to a table
    that is not dotted, a dotted key to one that is. -/
def addEntry (plain : Bool) (name : String) (node : Node) : Node → Option Node
  | .table origin entries =>
    if origin.dotted == plain || (find? name entries).isSome then none
    else some (.table origin (entries ++ [(name, node)]))
  | _ => none

/-- Defines a key, given by its path and last name, in a table. -/
def define (table : Node) (path : List String) (name : String) (node : Node) : Option Node :=
  within true (addEntry path.isEmpty name node) path table

/-- Changes the inline table at the end of a path. -/
def withinInline (change : Node → Option Node) : List String → Node → Option Node
  | [], node => change node
  | name :: path, .table origin entries => do
    let child := (find? name entries).getD
      (.table { implicit := true, dotted := true, inline := true } [])
    let child ← match child with
      | .table inner es =>
        if inner.inline && inner.implicit then withinInline change path (.table inner es) else none
      | _ => none
    some (.table origin (put name child entries))
  | _ :: _, _ => none

def ofPairs (pairs : List (List String × String × Node)) : Option Node :=
  pairs.foldlM (fun table p =>
    withinInline (addEntry p.1.isEmpty p.2.1 p.2.2) p.1 table) (.table { inline := true } [])

end Node

/-! ### Documents under construction -/

/-- A document while it is read: what is complete, and the table that new keys
    go into.  The current table joins the rest when the next header comes. -/
structure Draft where
  root : Node := .table {} []
  current : Node := .table {} []
  /-- Where the current table belongs; empty for the document itself. -/
  path : List String := []
  /-- The current table is one of several under its name. -/
  repeated : Bool := false

namespace Draft

def place (repeated : Bool) (name : String) (table : Node) : Node → Option Node
  | .table origin entries =>
    match Node.find? name entries with
    | none =>
      let node := if repeated then .tables [table] else table
      some (.table origin (Node.put name node entries))
    | some (.tables items) =>
      if repeated then some (.table origin (Node.put name (.tables (items ++ [table])) entries))
      else none
    | some (.table inner _) =>
      if !repeated && inner.implicit && !inner.inline then
        some (.table origin (Node.put name table entries))
      else none
    | some _ => none
  | _ => none

def finish (d : Draft) : Option Node :=
  match d.path.getLast? with
  | none => some d.current
  | some name => Node.within false (place d.repeated name d.current) d.path.dropLast d.root

/-- Takes an implicit table out of its place, to be completed: the table, and
    what is left. -/
def takeOut (name : String) : Node → Option (Node × Node)
  | .table origin entries =>
    match Node.find? name entries with
    | none => some (.table {} [], .table origin entries)
    | some (.table inner es) =>
      if inner.implicit && !inner.dotted && !inner.inline then
        some (.table {} es, .table origin (Node.remove name entries))
      else none
    | some _ => none
  | _ => none

/-- The table that `takeOut` finds at the end of a path. -/
def findImplicit (path : List String) (name : String) (root : Node) : Option Node :=
  match path, root with
  | [], node => (takeOut name node).map Prod.fst
  | step :: path, .table _ entries =>
    match Node.find? step entries with
    | none => some (.table {} [])
    | some (.tables items) =>
      match items.getLast? with
      | some last => findImplicit path name last
      | none => none
    | some child => findImplicit path name child
  | _ :: _, _ => none

/-- A header of one table: keys go there from now on. -/
def openTable (d : Draft) (path : List String) : Option Draft := do
  let root ← d.finish
  let name ← path.getLast?
  let current ← findImplicit path.dropLast name root
  let root ← Node.within false (fun node => (takeOut name node).map Prod.snd) path.dropLast root
  some { root, current, path, repeated := false }

/-- The name of several tables is not taken by anything else. -/
def reserve (name : String) : Node → Option Node
  | .table origin entries =>
    match Node.find? name entries with
    | none => some (.table origin (Node.put name (.tables []) entries))
    | some (.tables items) => some (.table origin (Node.put name (.tables items) entries))
    | some _ => none
  | _ => none

/-- A header of one of several tables under a name. -/
def openRepeated (d : Draft) (path : List String) : Option Draft := do
  let root ← d.finish
  let name ← path.getLast?
  let root ← Node.within false (reserve name) path.dropLast root
  some { root, current := .table {} [], path, repeated := true }

def define (d : Draft) (path : List String) (name : String) (node : Node) : Option Draft := do
  let current ← d.current.define path name node
  some { d with current }

end Draft

end MeetingRoom.Toml
