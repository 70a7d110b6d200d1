import LogSift.Unicode.Space
import LogSift.Unicode.Digit
import LogSift.Text.Quoted

/-!
# Integers in writing

`readInteger` reads a numeral in a base: blanks around it, a sign, the mark of the base and single
low lines between the digits are allowed, and the digits may come from any script. A numeral in
a base that is no power of two has a limited number of digits. An integer with more decimal digits
than that is not shown either (`isShowable`).
-/

namespace LogSift.Number

/-- Why a text is not read as an integer. -/
inductive IntegerFault where
  /-- The text is no numeral of the base. -/
  | malformed (base : Nat) (text : String)
  /-- The numeral has more digits than are read. -/
  | tooManyDigits (digits : Nat)
  /-- The integer has more digits than are shown. -/
  | tooLong
  deriving DecidableEq, Repr

/-- The number of digits that a decimal numeral may have, read or shown. -/
def digitLimit : Nat := 4300

/-- The wording of a numeral that is too long, with what is known about it. -/
def tooLongMessage (value : String) : String :=
  "Exceeds the limit (" ++ toString digitLimit ++ " digits) for integer string conversion" ++ value
    ++ "; use sys.set_int_max_str_digits() to increase the limit"

/-- The wording of a fault; a long text is cut. -/
def IntegerFault.message : IntegerFault → String
  | .malformed base text =>
    "invalid literal for int() with base " ++ toString base ++ ": " ++
      String.ofList ((Text.quote text).toList.take 200)
  | .tooManyDigits digits => tooLongMessage (": value has " ++ toString digits ++ " digits")
  | .tooLong => tooLongMessage ""

/-- Whether an integer can be shown. -/
def isShowable (n : Int) : Bool := n.natAbs < Nat.pow 10 digitLimit

/-- Whether a character may surround a numeral. -/
def isMargin (c : Char) : Bool := Unicode.isAsciiSpace c || (0x7F ≤ c.toNat && Unicode.isSpace c)

/-- The value of a digit or letter of a numeral. -/
def digitValue? (c : Char) : Option Nat :=
  if c.isLower then some (c.toNat - 'a'.toNat + 10)
  else if c.isUpper then some (c.toNat - 'A'.toNat + 10)
  else Unicode.decimalValue? c

/-- The value of a digit that is less than the base. -/
def digitIn? (base : Nat) (c : Char) : Option Nat :=
  match digitValue? c with
  | some d => if d < base then some d else none
  | none => none

/-- The longest beginning that consists of digits with single low lines between them: the number
of digits, their value and the rest. There is none if it ends in a low line. -/
def digitRun (base : Nat) (count value : Nat) (afterLine : Bool) :
    List Char → Option (Nat × Nat × List Char)
  | [] => if afterLine then none else some (count, value, [])
  | c :: rest =>
    match digitIn? base c with
    | some d => digitRun base (count + 1) (value * base + d) false rest
    | none =>
      if c = '_' then
        if afterLine || count = 0 then none else digitRun base count value true rest
      else if afterLine then none else some (count, value, c :: rest)

/-- The text after a mark of the base, such as `0x`, with a low line that may follow it. -/
def dropBaseMark (base : Nat) (s : List Char) : List Char :=
  match s with
  | '0' :: m :: rest =>
    if (base = 16 && (m = 'x' || m = 'X')) || (base = 8 && (m = 'o' || m = 'O')) ||
        (base = 2 && (m = 'b' || m = 'B')) then
      match rest with
      | '_' :: more => more
      | _ => rest
    else s
  | _ => s

/-- The sign of a numeral and what follows it. -/
def takeSign : List Char → Bool × List Char
  | '-' :: rest => (true, rest)
  | '+' :: rest => (false, rest)
  | s => (false, s)

/-- Whether numerals of the base are limited in length. -/
def isLimited (base : Nat) : Bool := base != 2 && base != 4 && base != 8 && base != 16 && base != 32

/-- The integer that a text shows in a base. -/
def readInteger (base : Nat) (text : String) : Except IntegerFault Int :=
  let (negative, body) := takeSign (text.toList.dropWhile isMargin)
  match digitRun base 0 0 false (dropBaseMark base body) with
  | none => .error (.malformed base text)
  | some (count, value, rest) =>
    if isLimited base && digitLimit < count then .error (.tooManyDigits count)
    else if count = 0 || !rest.all isMargin then .error (.malformed base text)
    else .ok (if negative then -(value : Int) else value)

end LogSift.Number
