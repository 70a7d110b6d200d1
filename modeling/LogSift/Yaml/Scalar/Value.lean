import LogSift.Number.Double
import LogSift.Regex.Basic
import LogSift.Text.Base64
import LogSift.Text.Lines
import LogSift.Text.Trim
import LogSift.Unicode.Lower
import LogSift.Value.Basic
import LogSift.Yaml.Tag
import LogSift.Yaml.Error

/-!
# Values of scalars

The text of a scalar as a value of a type. A tag may claim a type for a text of another form, so
that each reader takes any text and says what is wrong with it.
-/

namespace LogSift.Yaml

open Number (Double)

/-! ## Truth values -/

/-- The truth value that a word stands for. -/
def readTruth (text : String) : Except Fault Bool :=
  match Unicode.lowerText text with
  | "yes" | "true" | "on" => .ok true
  | "no" | "false" | "off" => .ok false
  | word => .error (.truth word)

/-! ## Numbers -/

/-- The text of a number without low lines. -/
def withoutLines (text : List Char) : List Char := text.filter (· ≠ '_')

/-- An integer in a base. -/
def integerIn (base : Nat) (text : List Char) : Except Fault Int :=
  match Number.readInteger base (String.ofList text) with
  | .ok n => .ok n
  | .error fault => .error (.integer fault)

/-- The value of parts to base 60 that are read one after another. -/
def sexagesimal (value : Int) : List (List Char) → Except Fault Int
  | [] => .ok value
  | part :: parts => do sexagesimal (value * 60 + (← integerIn 10 part)) parts

/-- The integer that digits without sign stand for. -/
def readDigits (digits : List Char) : Except Fault Int :=
  match digits with
  | ['0'] => .ok 0
  | '0' :: 'b' :: rest => integerIn 2 rest
  | '0' :: 'x' :: rest => integerIn 16 rest
  | '0' :: _ => integerIn 8 digits
  | [] => .error .emptyNumber
  | _ =>
    if digits.contains ':' then sexagesimal 0 (Text.splitOn ':' digits) else integerIn 10 digits

/-- The integer that a text stands for. -/
def readInt (text : String) : Except Fault Int :=
  match withoutLines text.toList with
  | [] => .error .emptyNumber
  | '-' :: digits => (readDigits digits).map fun n => -n
  | '+' :: digits => readDigits digits
  | digits => readDigits digits

/-- The decimal digit of the usual script for one of any script. -/
def usualDigit (c : Char) : Char :=
  match Unicode.decimalValue? c with
  | some d => Char.ofNat ('0'.toNat + d)
  | none => c

/-- The floating-point number that a decimal stands for. Blanks around it do not count. -/
def readDecimal (text : List Char) : Except Fault Double :=
  let trimmed := (Text.trimBy Number.isMargin text).map usualDigit
  match Number.readDouble (String.ofList trimmed) with
  | some x => .ok x
  | none => .error (.float (String.ofList text))

/-- The sum of the parts of a number to base 60, last part first, each times a power of the base.
The powers have to be in the range of floating-point numbers. -/
def sexagesimalSum (total : Double) (power : Nat) : List Double → Except Fault Double
  | [] => .ok total
  | part :: parts =>
    let scale := Double.ofInt power
    if scale.isInfinite then .error .power
    else sexagesimalSum (total.add (part.mul scale)) (power * 60) parts

/-- The floating-point number that a text in lower case without sign stands for. -/
def readMagnitude (text : List Char) : Except Fault Double :=
  if text = ".inf".toList then .ok (.infinity false)
  else if text = ".nan".toList then .ok .nan
  else if text.contains ':' then do
    let parts ← (Text.splitOn ':' text).mapM readDecimal
    sexagesimalSum (.zero false) 1 parts.reverse
  else readDecimal text

/-- The floating-point number that a text stands for. -/
def readFloat (text : String) : Except Fault Double :=
  match (Unicode.lowerText (String.ofList (withoutLines text.toList))).toList with
  | [] => .error .emptyNumber
  | '-' :: rest => (readMagnitude rest).map fun x => x.mul (.ofInt (-1))
  | '+' :: rest => readMagnitude rest
  | rest => readMagnitude rest

/-! ## Dates and times -/

/-- The parts of a date or timestamp: year, month, day, hour, minute, second, fraction, offset, its
sign, its hours and its minutes. -/
def timestampParts : Option Regex :=
  (Regex.ofText <|
    "^([0-9][0-9][0-9][0-9])-([0-9][0-9]?)-([0-9][0-9]?)" ++
    "(?:(?:[Tt]|[ \\t]+)([0-9][0-9]?):([0-9][0-9]):([0-9][0-9])(?:\\.([0-9]*))?" ++
    "(?:[ \\t]*(Z|([-+])([0-9][0-9]?)(?::([0-9][0-9]))?))?)?$").toOption

/-- The number that digits stand for. -/
def digitsValue (digits : List Char) : Nat := (Number.decimalRun 0 0 digits).1

/-- A fraction of a second in microseconds; further digits are cut. -/
def microseconds (fraction : List Char) : Nat :=
  digitsValue ((fraction ++ List.replicate 6 '0').take 6)

/-- The offset that the parts of a timestamp give. -/
def offsetOf (part : Nat → Option (List Char)) : Except CalendarFault (Option Int) :=
  let number (n : Nat) : Nat := ((part n).map digitsValue).getD 0
  match part 9, part 8 with
  | some sign, _ => (offsetOfParts (sign = ['-']) (number 10) (number 11)).map some
  | none, some _ => .ok (some 0)
  | none, none => .ok none

/-- The date or timestamp with these parts. -/
def ofTimestampParts (part : Nat → Option (List Char)) : Except CalendarFault Scalar :=
  let number (n : Nat) : Nat := ((part n).map digitsValue).getD 0
  if (part 4).isNone then (Date.ofParts (number 1) (number 2) (number 3)).map .date
  else do
    let offset ← offsetOf part
    let timestamp ← Timestamp.ofParts (number 1) (number 2) (number 3) (number 4) (number 5)
      (number 6) (microseconds ((part 7).getD [])) offset
    return .timestamp timestamp

/-- The date or timestamp that a text stands for. -/
def readTimestamp (text : String) : Except Fault Scalar :=
  match timestampParts.bind fun r => r.search text.toList with
  | none => .error .notTimestamp
  | some found =>
    match ofTimestampParts found.group? with
    | .ok s => .ok s
    | .error fault => .error (.calendar fault)

/-! ## Octets -/

/-- The octets that a text stands for. -/
def readOctets (text : String) : Except Fault (List UInt8) :=
  let s := text.toList
  if s.all fun c => c.toNat < 128 then
    match Text.Base64.decode s with
    | some octets => .ok octets
    | none => .error .malformed
  else .error .malformed

/-! ## All types -/

/-- The value of a text as a scalar of a type; collections have no scalars. -/
def readScalar (tag : Tag) (text : String) : Except Fault Scalar :=
  match tag with
  | .null => .ok .null
  | .bool => (readTruth text).map .bool
  | .int => (readInt text).map .int
  | .float => (readFloat text).map .float
  | .binary => (readOctets text).map .octets
  | .timestamp => readTimestamp text
  | .text => .ok (.text text)
  | .list | .map | .set | .orderedMap | .pairs | .merge | .value | .other => .error .malformed

end LogSift.Yaml
