import LogSift.Matcher.Run

/-!
# Documents of matchers

A document holds matchers in one of three forms: a map with a list under `problemMatcher`, a list,
or a single matcher.

* `matchersOf`: the matchers of a document, in order.
* `select`: the matcher of an owner, or the only matcher when no owner is asked for. Of several
  matchers of one owner the first is taken.
-/

namespace LogSift.MatcherFile

open Matcher (Description)

/-- Why a document does not give a matcher. -/
inductive DocumentError where
  | noMatchers
  /-- A matcher of the document is refused. -/
  | matcher (error : Matcher.Error)
  /-- There are several matchers and none was asked for. -/
  | several (owners : List String)
  | unknownOwner (owner : Value)
  /-- The owner with an index has to be listed and is no text. -/
  | ownerNotText (index : Nat) (kind : String)
  deriving DecidableEq

/-- Owners in a row. -/
def joinOwners (owners : List String) : String := String.intercalate ", " owners

/-- The wording of an error. -/
def DocumentError.message : DocumentError → String
  | .noMatchers => "Matcher file does not contain any matchers"
  | .matcher error => error.message
  | .several owners =>
    "Matcher file defines several matchers (" ++ joinOwners owners ++ "); choose one with --owner"
  | .unknownOwner owner => "No matcher with owner '" ++ owner.shown ++ "' found"
  | .ownerNotText index kind =>
    "sequence item " ++ toString index ++ ": expected str instance, " ++ kind ++ " found"

/-- The entries of a document that describe a matcher each, if they are a list. -/
def entriesOf (document : Value) : Option (List Value) :=
  match document with
  | .map entries =>
    match Entries.field? "problemMatcher" entries with
    | some (.list items) => some items
    | some _ => none
    | none => some [document]
  | .list items => some items
  | _ => some [document]

/-- Checks and builds a matcher. -/
def describe (entry : Value) : Except Matcher.Error Description := do
  (Matcher.Source.value entry).validate
  Description.ofValue entry

/-- Checks and builds matchers; the first that is refused decides the error. -/
def describeAll : List Value → Except Matcher.Error (List Description)
  | [] => .ok []
  | entry :: rest => do
    let first ← describe entry
    return first :: (← describeAll rest)

/-- The matchers of a document. -/
def matchersOf (document : Value) : Except DocumentError (List Description) :=
  match entriesOf document with
  | none | some [] => .error .noMatchers
  | some entries =>
    match describeAll entries with
    | .ok matchers => .ok matchers
    | .error e => .error (.matcher e)

/-- The owners of matchers that are numbered from an index on, as texts. -/
def ownerTexts (index : Nat) : List Description → Except DocumentError (List String)
  | [] => .ok []
  | d :: rest =>
    match d.owner with
    | .text s => (ownerTexts (index + 1) rest).map (s :: ·)
    | v => .error (.ownerNotText index v.fullKind)

/-- The matcher of an owner. -/
def selectOwner (matchers : List Description) (owner : Value) : Except DocumentError Description :=
  match matchers.find? fun d => d.owner.equal owner with
  | some d => .ok d
  | none => .error (.unknownOwner owner)

/-- The only matcher. -/
def selectOnly (matchers : List Description) : Except DocumentError Description :=
  match matchers with
  | [d] => .ok d
  | _ => do throw (.several (← ownerTexts 0 matchers))

/-- The matcher of an owner; null asks for the only matcher. -/
def select (matchers : List Description) (owner : Value) : Except DocumentError Description :=
  match owner with
  | .null => selectOnly matchers
  | owner => selectOwner matchers owner

end LogSift.MatcherFile
