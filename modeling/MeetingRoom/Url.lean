/-
  MeetingRoom/Url.lean
  ====================
  **Addresses on the web.**

  A text is cleaned of blanks at its ends and of tabs and line ends anywhere;
  then the fragment is cut off at the first `#`, the query at the first `?` and
  the scheme at the first colon.  What is left is the authority and the path.

  `Url.withPairs` adds pairs to the query, in the way of forms.
-/
import MeetingRoom.Text.FormEncoding
import MeetingRoom.Text.Trim
import MeetingRoom.Url.Authority
import MeetingRoom.Url.Path

namespace MeetingRoom

/-- An address. -/
structure Url where
  scheme : String
  authority : Option Authority
  path : Path
  query : Option (List Char)
  fragment : Option (List Char)
deriving DecidableEq, Repr

namespace Url

open Text (cut escape stripWhile)

/-! ### Printing -/

def baseText (u : Url) : List Char :=
  u.scheme.toList ++ ':' ::
    match u.authority with
    | some a => '/' :: '/' :: a.text ++ u.path.text
    | none => u.path.textAlone

def marked (sign : Char) : Option (List Char) → List Char
  | some cs => sign :: cs
  | none => []

def text (u : Url) : String :=
  String.ofList (u.baseText ++ marked '?' u.query ++ marked '#' u.fragment)

/-! ### Reading -/

/-- A character that is dropped at the ends of an address. -/
def isEdge (c : Char) : Bool := c.toNat ≤ 0x20

/-- A character that is dropped anywhere in an address. -/
def isIgnored (c : Char) : Bool := c == '\t' || c == '\n' || c == '\r'

/-- The characters of an address that count. -/
def cleaned (raw : String) : List Char := (stripWhile isEdge raw.toList).filter (!isIgnored ·)

def isSchemeChar (c : Char) : Bool := c.isAlphanum || c == '+' || c == '-' || c == '.'

def cutScheme? (cs : List Char) : Option (String × List Char) :=
  match cut (· == ':') cs with
  | (first :: more, some rest) =>
    if first.isAlpha && more.all isSchemeChar then
      some (String.ofList ((first :: more).map Char.toLower), rest)
    else none
  | _ => none

/-- A character that is escaped in a query. -/
def isQueryEscaped (isSpecial : Bool) (c : Char) : Bool :=
  c.toNat < 0x20 || 0x7F ≤ c.toNat || " \"#<>".toList.contains c || (isSpecial && c == '\'')

/-- A character that is escaped in a fragment. -/
def isFragmentEscaped (c : Char) : Bool :=
  c.toNat < 0x20 || 0x7F ≤ c.toNat || " \"<>`".toList.contains c

def afterSlash (isSlash : Char → Bool) : List Char → List Char
  | c :: rest => if isSlash c then rest else c :: rest
  | [] => []

/-- A file's path without the empty segments at its start. -/
def filePath (names : List (List Char)) : Path :=
  match names.dropWhile List.isEmpty with
  | [] => .segments [[]]
  | names => .segments names

/-- Authority and path of a file's address.  A drive at the start of the path has
    no host before it and gets a colon.  Where an empty host is written, the path
    starts with an empty segment, which counts until it is dropped in the end. -/
def parseFile (isSlash : Char → Bool) (cs : List Char) :
    Except UrlProblem (Option Authority × Path) :=
  let names (cs : List Char) := Path.ofText true isSlash cs
  match cs with
  | a :: b :: rest =>
    if isSlash a && isSlash b then do
      let hostText := rest.takeWhile (!isSlash ·)
      if Path.isDrive hostText then .ok (some {}, filePath (names rest))
      else do
        let authority ← Authority.parseFile hostText
        let pathText := rest.dropWhile (!isSlash ·)
        if authority.host = .empty then .ok (some {}, filePath (names pathText))
        else
          let names := names (afterSlash isSlash pathText)
          .ok (some (if names.head?.any Path.isDrive then {} else authority), filePath names)
    else .ok (some {}, filePath (names (afterSlash isSlash cs)))
  | _ => .ok (some {}, filePath (names (afterSlash isSlash cs)))

/-- Authority and path of an address of the web, after the slashes. -/
def parseWeb (standard : Nat) (isSlash : Char → Bool) (cs : List Char) :
    Except UrlProblem (Option Authority × Path) := do
  let cs := cs.dropWhile isSlash
  let authority ← Authority.parse (some standard) (cs.takeWhile (!isSlash ·))
  .ok (some authority,
    .segments (Path.ofText false isSlash (afterSlash isSlash (cs.dropWhile (!isSlash ·)))))

def parseOther (isSlash : Char → Bool) (cs : List Char) :
    Except UrlProblem (Option Authority × Path) :=
  match cs with
  | '/' :: '/' :: rest => do
    let (authorityText, tail) := Authority.cutTail (rest.takeWhile (!isSlash ·))
    let authority ← Authority.parse none authorityText
    let pathText := tail ++ rest.dropWhile (!isSlash ·)
    .ok (some authority,
      .segments (if pathText.isEmpty then []
        else Path.ofText false isSlash (afterSlash isSlash pathText)))
  | '/' :: rest => .ok (none, .segments (Path.ofText false isSlash rest))
  | cs => .ok (none, .verbatim (escape Host.isControl cs))

/-- Authority and path of the text after the scheme. -/
def parseRest (kind : SchemeKind) (cs : List Char) :
    Except UrlProblem (Option Authority × Path) :=
  match kind with
  | .web standard => parseWeb standard kind.isSlash cs
  | .file => parseFile kind.isSlash cs
  | .other => parseOther kind.isSlash cs

def parse (raw : String) : Except UrlProblem Url :=
  let (cs, fragment) := cut (· == '#') (cleaned raw)
  let (cs, query) := cut (· == '?') cs
  match cutScheme? cs with
  | none => .error .noScheme
  | some (scheme, rest) => do
    let kind := SchemeKind.ofName scheme
    let (authority, path) ← parseRest kind rest
    .ok {
      scheme, authority, path
      query := query.map (escape (isQueryEscaped kind.isSpecial))
      fragment := fragment.map (escape isFragmentEscaped) }

/-! ### Parts of an address -/

/-- The address without the user's name and password, if they are texts. -/
def withoutUser (u : Url) : Url :=
  match u.authority with
  | some a =>
    if a.isUserText then { u with authority := some { a with user := [], password := [] } } else u
  | none => u

/-- The address with pairs after its query. -/
def withPairs (u : Url) (pairs : List (String × String)) : Url :=
  { u with query := some (Text.FormEncoding.append (u.query.getD []) pairs) }

end Url

end MeetingRoom
