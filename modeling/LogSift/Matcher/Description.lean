import LogSift.Value.Basic
import LogSift.Matcher.Error

/-!
# Descriptions of matchers

A `Description` names the owner of a matcher, its sub-patterns in order and the severity of
records that do not capture one. A `SubPattern` is an expression with the groups that give the
fields of a record; one with the loop mark takes any number of lines.

* `Description.toValue`: the description in the form of a matcher file.
* `Description.mode`: how the sub-patterns are applied, if they have a shape that can be run.
-/

namespace LogSift.Matcher

/-- An expression with the groups of its fields. -/
structure SubPattern where
  regexp : String
  /-- The group of each field, as it was given. -/
  fields : Entries Value
  loop : Bool
  deriving DecidableEq

/-- A matcher. -/
structure Description where
  owner : Value
  pattern : List SubPattern
  /-- The severity of records that capture none; null for no such severity. -/
  severity : Value
  deriving DecidableEq

/-- How the sub-patterns of a matcher are applied. -/
inductive Mode where
  /-- One sub-pattern, applied to each line. -/
  | single
  /-- Headers that give context to the lines of a last sub-pattern. -/
  | loop
  deriving DecidableEq, Repr

/-- The word for a mode. -/
def Mode.name : Mode → String
  | .single => "single"
  | .loop => "loop"

/-- The sub-pattern in the form of a matcher file. -/
def SubPattern.toValue (s : SubPattern) : Value :=
  let entries := Entries.merge [(.text "regexp", .text s.regexp)] s.fields
  .map (if s.loop then entries.set (.text "loop") (.bool true) else entries)

namespace Description

/-- The index of the last sub-pattern, if it has the loop mark. -/
def loopIndex? (d : Description) : Option Nat :=
  match d.pattern.getLast? with
  | some s => if s.loop then some (d.pattern.length - 1) else none
  | none => none

/-- The description in the form of a matcher file. -/
def toValue (d : Description) : Value :=
  let owner := [(Scalar.text "owner", d.owner)]
  let severity := match d.severity with
    | .null => []
    | v => [(Scalar.text "severity", v)]
  .map (owner ++ severity ++ [(.text "pattern", .list (d.pattern.map SubPattern.toValue))])

/-- How the sub-patterns are applied: one by itself, or several of which the last and no other has
the loop mark. -/
def mode (d : Description) : Except Error Mode :=
  if d.pattern.length = 1 then .ok .single
  else if d.loopIndex?.isSome && !d.pattern.dropLast.any SubPattern.loop then .ok .loop
  else .error .unsupported

end Description

end LogSift.Matcher
