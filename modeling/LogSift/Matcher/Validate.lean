import LogSift.Matcher.Description

/-!
# Checks before matching

A matcher comes as a `Source`: the value of a matcher file, or a description. `Source.validate`
checks that it has an owner and a list of sub-patterns; what the sub-patterns hold is not looked
at. `validateInput` checks that there is a text to match.
-/

namespace LogSift.Matcher

/-- A matcher as it is given. -/
inductive Source where
  | value (v : Value)
  | description (d : Description)

namespace Source

/-- The owner, if the matcher can have one. -/
def owner : Source → Value
  | .value (.map entries) => (Entries.field? "owner" entries).getD .null
  | .value _ => .null
  | .description d => d.owner

/-- The number of sub-patterns, or none when they are no list. Without an entry for them there is
no result. -/
def patternCount? : Source → Option (Option Nat)
  | .value (.map entries) =>
    match Entries.field? "pattern" entries with
    | none | some .null => none
    | some (.list items) => some (some items.length)
    | some (.pair _ _) => some (some 2)
    | some _ => some none
  | .value _ => none
  | .description d => some (some d.pattern.length)

/-- Checks the form of a matcher. -/
def validate (s : Source) : Except Error Unit :=
  match s with
  | .value .null => .error .noMatcher
  | s =>
    if !s.owner.isTrue then .error .noOwner
    else match s.patternCount? with
      | none => .error .noPattern
      | some none | some (some 0) => .error .patternNotList
      | some (some _) => .ok ()

end Source

/-- Checks that there is a text to match, and gives it. -/
def validateInput (input : Value) : Except Error String :=
  match input with
  | .null => .error .noInput
  | .text s => if s.isEmpty then .error .noInput else .ok s
  | v => .error (.inputNotText v.kind)

end LogSift.Matcher
