import LogSift.Number.Integer
import LogSift.Text.Position

/-!
# Errors of expressions

A `Cause` says why an expression is refused. `Error.invalid` is an expression that is not
well-formed, with the position where that shows, or without one when the expression reads well and
cannot be used. The other errors are limits that a well-formed expression can run into.
-/

namespace LogSift.Regex

/-- Why an expression is refused. -/
inductive Cause where
  | escapeAtEnd
  | incompleteEscape (text : String)
  | badEscape (text : String)
  | octalTooLarge (text : String)
  | missingBrace
  | missingName (what : String)
  | unterminatedName (closing : Char)
  | unknownCharacter (name : String)
  | openGroup
  | lookbehindGroup
  | invalidGroup (number : Nat)
  | unterminatedSet
  | badRange (first last : String)
  | leastOverMost
  | nothingToRepeat
  | multipleRepeat
  | unexpectedEnd
  | badGroupName (name : String)
  | unknownGroup (name : String)
  | unknownExtension (text : String)
  | unterminatedComment
  | unterminatedGroup
  | groupNumberZero
  | thirdBranch
  | misplacedFlags
  | nameInUse (name : String) (number former : Nat)
  | localeFlag
  | alphabetConflict
  | flagsNotClosed
  | unknownFlag
  | missingFlag
  | missingColon
  | turnsOnGlobal
  | turnsOffAlphabet
  | turnsOffGlobal
  | onAndOff
  | unbalanced
  | templateRepeat (operator : String)
  | lookbehindVaries
  deriving DecidableEq, Repr

/-- The wording of a cause. -/
def Cause.message : Cause → String
  | .escapeAtEnd => "bad escape (end of pattern)"
  | .incompleteEscape text => "incomplete escape " ++ text
  | .badEscape text => "bad escape " ++ text
  | .octalTooLarge text => "octal escape value " ++ text ++ " outside of range 0-0o377"
  | .missingBrace => "missing \x7b"
  | .missingName what => "missing " ++ what
  | .unterminatedName closing => "missing " ++ closing.toString ++ ", unterminated name"
  | .unknownCharacter name => "undefined character name " ++ Text.quote name
  | .openGroup => "cannot refer to an open group"
  | .lookbehindGroup => "cannot refer to group defined in the same lookbehind subpattern"
  | .invalidGroup number => "invalid group reference " ++ toString number
  | .unterminatedSet => "unterminated character set"
  | .badRange first last => "bad character range " ++ first ++ "-" ++ last
  | .leastOverMost => "min repeat greater than max repeat"
  | .nothingToRepeat => "nothing to repeat"
  | .multipleRepeat => "multiple repeat"
  | .unexpectedEnd => "unexpected end of pattern"
  | .badGroupName name => "bad character in group name " ++ Text.quote name
  | .unknownGroup name => "unknown group name " ++ Text.quote name
  | .unknownExtension text => "unknown extension " ++ text
  | .unterminatedComment => "missing ), unterminated comment"
  | .unterminatedGroup => "missing ), unterminated subpattern"
  | .groupNumberZero => "bad group number"
  | .thirdBranch => "conditional backref with more than two branches"
  | .misplacedFlags => "global flags not at the start of the expression"
  | .nameInUse name number former =>
    "redefinition of group name " ++ Text.quote name ++ " as group " ++ toString number
      ++ "; was group " ++ toString former
  | .localeFlag => "bad inline flags: cannot use 'L' flag with a str pattern"
  | .alphabetConflict => "bad inline flags: flags 'a', 'u' and 'L' are incompatible"
  | .flagsNotClosed => "missing -, : or )"
  | .unknownFlag => "unknown flag"
  | .missingFlag => "missing flag"
  | .missingColon => "missing :"
  | .turnsOnGlobal => "bad inline flags: cannot turn on global flag"
  | .turnsOffAlphabet => "bad inline flags: cannot turn off flags 'a', 'u' and 'L'"
  | .turnsOffGlobal => "bad inline flags: cannot turn off global flag"
  | .onAndOff => "bad inline flags: flag turned on and off"
  | .unbalanced => "unbalanced parenthesis"
  | .templateRepeat operator => "internal: unsupported template operator " ++ operator
  | .lookbehindVaries => "look-behind requires fixed-width pattern"

/-- Where a fault shows. The line and column are given for expressions of several lines. -/
structure Place where
  position : Nat
  lineAndColumn : Option (Nat × Nat)
  deriving DecidableEq, Repr

/-- The place of a position in an expression. -/
def Place.of (expression : List Char) (position : Nat) : Place :=
  ⟨position, if expression.contains '\n' then
      some (Text.lineAt expression position, Text.columnAt expression position)
    else none⟩

/-- The wording of a place. -/
def Place.message (p : Place) : String :=
  " at position " ++ toString p.position ++
    match p.lineAndColumn with
    | none => ""
    | some (line, column) => " (line " ++ toString line ++ ", column " ++ toString column ++ ")"

/-- Why an expression cannot be used. -/
inductive Error where
  /-- The expression is not well-formed. -/
  | invalid (cause : Cause) (place : Option Place)
  /-- A number of repetitions is too large. -/
  | repetitionTooLarge
  /-- The number of a character is far too large. -/
  | codeTooLarge
  /-- A number has too many digits. -/
  | integer (fault : Number.IntegerFault)
  /-- The flags choose two alphabets. -/
  | twoAlphabets
  /-- A lookbehind goes back too many characters. -/
  | looksTooFar
  deriving DecidableEq, Repr

/-- The wording of an error. -/
def Error.message : Error → String
  | .invalid cause place => cause.message ++ (place.map Place.message).getD ""
  | .repetitionTooLarge => "the repetition number is too large"
  | .codeTooLarge => "Python int too large to convert to C int"
  | .integer fault => fault.message
  | .twoAlphabets => "ASCII and UNICODE flags are incompatible"
  | .looksTooFar => "invalid SRE code"

end LogSift.Regex
