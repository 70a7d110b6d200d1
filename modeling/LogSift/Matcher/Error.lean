import LogSift.Regex.Error
import LogSift.Value.Show

/-!
# Errors of matchers

Every way in which a matcher or its input is refused. `Error.family` sorts the errors: the first
three families are about matchers and input, the others are limits and misuse that show while a
matcher is built.
-/

namespace LogSift.Matcher

/-- Why matching does not give records. -/
inductive Error where
  | noMatcher
  | noOwner
  | noPattern
  | patternNotList
  /-- A sub-pattern is not a map. -/
  | entryNotMap (index : Nat)
  /-- The expression of a sub-pattern is not a text. -/
  | regexpNotText (index : Nat)
  /-- The expression of a sub-pattern is not well-formed. -/
  | regexpInvalid (index : Nat) (cause : Regex.Cause) (place : Option Regex.Place)
  /-- A field asks for the whole match. -/
  | groupZero
  /-- A field asks for a group that is not there or has matched nothing. -/
  | noGroup (group : Value) (field : Scalar)
  | noInput
  | inputNotText (kind : String)
  /-- The sub-patterns are neither one nor headers with one loop. -/
  | unsupported
  /-- A group number in digits is no number, or a number is too long for a message. -/
  | integer (fault : Number.IntegerFault)
  /-- An expression runs into a limit. -/
  | expression (error : Regex.Error)
  /-- A group of a match begins behind its end. -/
  | brokenMatch
  /-- A map has no such entry. -/
  | missingEntry (name : String)
  /-- A value of this kind has no entries. -/
  | noEntries (kind : String)
  /-- A value of this kind has no items. -/
  | noItems (kind : String)
  deriving DecidableEq

/-- What an error is about. -/
inductive Family where
  /-- The matcher is missing, malformed or asks for a group that is not there. -/
  | configuration
  /-- There is no input to match. -/
  | input
  /-- The matcher has a shape that cannot be run. -/
  | shape
  /-- A text does not show a value that is wanted. -/
  | number
  /-- A number is out of range. -/
  | range
  /-- An entry is missing. -/
  | lookup
  /-- A value is of the wrong kind. -/
  | kind
  /-- An expression cannot be run. -/
  | expression
  /-- A match does not make sense. -/
  | outcome
  deriving DecidableEq, Repr

/-- The family of an error in an expression that is well-formed. -/
def expressionFamily : Regex.Error → Family
  | .invalid _ _ => .configuration
  | .repetitionTooLarge | .codeTooLarge => .range
  | .integer _ | .twoAlphabets => .number
  | .looksTooFar => .expression

namespace Error

/-- The family of an error. -/
def family : Error → Family
  | .noMatcher | .noOwner | .noPattern | .patternNotList | .entryNotMap _ | .regexpNotText _
  | .regexpInvalid _ _ _ | .groupZero | .noGroup _ _ => .configuration
  | .noInput | .inputNotText _ => .input
  | .unsupported => .shape
  | .integer _ => .number
  | .expression e => expressionFamily e
  | .brokenMatch => .outcome
  | .missingEntry _ => .lookup
  | .noEntries _ | .noItems _ => .kind

/-- The wording for a value that has no entries. -/
def noEntriesMessage (kind : String) : String :=
  if kind = "list" || kind = "tuple" then kind ++ " indices must be integers or slices, not str"
  else if kind = "bytes" then "byte indices must be integers or slices, not str"
  else if kind = "str" then "string indices must be integers, not 'str'"
  else "'" ++ kind ++ "' object is not subscriptable"

/-- The beginning of a message about a sub-pattern. -/
def entryText (index : Nat) : String := "matcher.pattern[" ++ toString index ++ "]"

/-- The wording of an error. -/
def message : Error → String
  | .noMatcher => "No matcher provided"
  | .noOwner => "No matcher.owner provided"
  | .noPattern => "No matcher.pattern provided"
  | .patternNotList => "matcher.pattern must be an array with at least one value"
  | .entryNotMap index => entryText index ++ " must be an object"
  | .regexpNotText index => entryText index ++ ".regexp must be a string"
  | .regexpInvalid index cause place =>
    entryText index ++ ".regexp is not a valid regular expression: "
      ++ (Regex.Error.invalid cause place).message
  | .groupZero => "Group 0 is not a valid capture group (it contains the entire matched string)"
  | .noGroup group field =>
    "Invalid capture group provided. Group " ++ group.shown ++ " (" ++ field.shown
      ++ ") does not exist in regexp"
  | .noInput => "No input provided"
  | .inputNotText kind => "Input must be a string, got " ++ kind
  | .unsupported =>
    "Unsupported pattern configuration. We currently support single pattern and multi-line loop "
      ++ "pattern configurations"
  | .integer fault => fault.message
  | .expression error => error.message
  | .brokenMatch => "The span of capturing group is wrong, please report a bug for the re module."
  | .missingEntry name => Text.quote name
  | .noEntries kind => noEntriesMessage kind
  | .noItems kind => "'" ++ kind ++ "' object is not iterable"

end Error

end LogSift.Matcher
