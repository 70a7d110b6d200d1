import LogSift.Calendar
import LogSift.Number.Integer

/-!
# Faults of YAML documents

A document is malformed, or it is well formed and one of its scalars has no value of the type that
it claims.

An escape can stand for half a pair of surrogates. No text here holds one: a document with a lone
surrogate is left out, which is a fault of its own.
-/

namespace LogSift.Yaml

/-- Why a document has no value. -/
inductive Fault where
  /-- The text does not follow the grammar, or a node has no value of its type. -/
  | malformed
  | integer (fault : Number.IntegerFault)
  /-- The text is no floating-point number. -/
  | float (text : String)
  /-- An integer is out of the range of floating-point numbers. -/
  | power
  /-- The text, in lower case, is no truth value. -/
  | truth (text : String)
  /-- A number has no characters. -/
  | emptyNumber
  | notTimestamp
  /-- A map stands where a date or timestamp has to. -/
  | mapForTimestamp
  | calendar (fault : CalendarFault)
  /-- No character has this code. -/
  | character (code : Nat)
  /-- A scalar escapes a lone surrogate. -/
  | loneSurrogate
  deriving DecidableEq, Repr

/-- The least code that does not fit into 31 bits. -/
def codeLimit : Nat := 2147483648

/-- The wording of a fault. -/
def Fault.message : Fault → String
  | .malformed => "malformed document"
  | .integer fault => fault.message
  | .float text => "could not convert string to float: " ++ Text.quote text
  | .power => "int too large to convert to float"
  | .truth text => Text.quote text
  | .emptyNumber => "string index out of range"
  | .notTimestamp => "'NoneType' object has no attribute 'groupdict'"
  | .mapForTimestamp => "expected string or bytes-like object, got 'list'"
  | .calendar fault => fault.message
  | .character code =>
    if code < codeLimit then "chr() arg not in range(0x110000)"
    else "Python int too large to convert to C int"
  | .loneSurrogate => "lone surrogate"

end LogSift.Yaml
