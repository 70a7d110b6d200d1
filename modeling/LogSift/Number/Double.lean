/-!
# Binary floating point

A `Double` is a number of the 64-bit binary format, kept as an exact value: a mantissa below 2^53
times a power of two with an exponent of at least -1074, infinity, or not a number. Operations
compute with exact ratios and round once, to the nearest number and halfway to the even mantissa.
-/

namespace LogSift.Number

/-- A number of the 64-bit binary format. -/
inductive Double where
  | nan
  | infinity (negative : Bool)
  /-- The value is the mantissa times two to the exponent, with a sign. -/
  | finite (negative : Bool) (mantissa : Nat) (exponent : Int)
  deriving DecidableEq, Repr

namespace Double

/-- The least exponent. -/
def leastExponent : Int := -1074

/-- The greatest exponent. -/
def greatestExponent : Int := 971

/-- Zero with a sign. -/
def zero (negative : Bool) : Double := .finite negative 0 leastExponent

/-- A ratio times a power of two, as a ratio. -/
def scale (num den : Nat) (shift : Int) : Nat × Nat :=
  if 0 ≤ shift then (num * Nat.pow 2 shift.toNat, den)
  else (num, den * Nat.pow 2 (-shift).toNat)

/-- The integer nearest to a ratio; halfway the even one. -/
def roundRatio (num den : Nat) : Nat :=
  let q := num / den
  let twice := 2 * (num % den)
  if twice < den then q else if den < twice then q + 1 else if q % 2 = 0 then q else q + 1

/-- The exponent at which a ratio has a mantissa of 53 bits, or the least one. -/
def exponentFor (num den : Nat) : Int :=
  let guess : Int := (num.log2 : Int) - den.log2 - 52
  let (n, d) := scale num den (-guess)
  max leastExponent (if n / d < Nat.pow 2 52 then guess - 1 else guess)

/-- The number nearest to a ratio. -/
def ofRatio (negative : Bool) (num den : Nat) : Double :=
  if num = 0 then zero negative
  else
    let e := exponentFor num den
    let (n, d) := scale num den (-e)
    let m := roundRatio n d
    let (m, e) := if m = Nat.pow 2 53 then (Nat.pow 2 52, e + 1) else (m, e)
    if greatestExponent < e then .infinity negative else .finite negative m e

/-- The number nearest to `digits · 10^exponent`. As 2^10 is above 10^3 and 2^3 below 10, the
logarithm shows when the value is far out of range, and then no power is computed. -/
def ofDecimal (negative : Bool) (digits : Nat) (exponent : Int) : Double :=
  if digits = 0 then zero negative
  else if 400 < (3 * digits.log2 / 10 : Nat) + exponent then .infinity negative
  else if ((digits.log2 + 1) / 3 + 1 : Nat) + exponent < -400 then zero negative
  else if 0 ≤ exponent then ofRatio negative (digits * Nat.pow 10 exponent.toNat) 1
  else ofRatio negative digits (Nat.pow 10 (-exponent).toNat)

/-- Whether the number is zero. -/
def isZero : Double → Bool
  | .finite _ m _ => m == 0
  | _ => false

/-- The integer that the number is equal to. -/
def toInt? : Double → Option Int
  | .finite negative m e =>
    let signed (n : Nat) : Int := if negative then -(n : Int) else n
    if 0 ≤ e then some (signed (m * Nat.pow 2 e.toNat))
    else if m % Nat.pow 2 (-e).toNat = 0 then some (signed (m / Nat.pow 2 (-e).toNat))
    else none
  | _ => none

/-- A finite value as a signed numerator over a denominator. -/
def ratio (negative : Bool) (mantissa : Nat) (exponent : Int) : Int × Nat :=
  let (n, d) := scale mantissa 1 exponent
  (if negative then -(n : Int) else n, d)

/-- The sum of two numbers. -/
def add : Double → Double → Double
  | .nan, _ => .nan
  | _, .nan => .nan
  | .infinity a, .infinity b => if a = b then .infinity a else .nan
  | .infinity a, _ => .infinity a
  | _, .infinity b => .infinity b
  | .finite a m e, .finite b n f =>
    let (p, q) := ratio a m e
    let (r, s) := ratio b n f
    let total := p * s + r * q
    if total = 0 then zero (a && b) else ofRatio (total < 0) total.natAbs (q * s)

/-- The product of two numbers. -/
def mul : Double → Double → Double
  | .nan, _ => .nan
  | _, .nan => .nan
  | .infinity a, .infinity b => .infinity (a != b)
  | .infinity a, .finite b n _ => if n = 0 then .nan else .infinity (a != b)
  | .finite a m _, .infinity b => if m = 0 then .nan else .infinity (a != b)
  | .finite a m e, .finite b n f =>
    let (p, q) := ratio a m e
    let (r, s) := ratio b n f
    ofRatio (a != b) (p.natAbs * r.natAbs) (q * s)

/-- The number nearest to an integer. -/
def ofInt (n : Int) : Double := ofRatio (n < 0) n.natAbs 1

/-- Whether the number is infinity. -/
def isInfinite : Double → Bool
  | .infinity _ => true
  | _ => false

end Double

/-- The digits at the beginning of a text: their value, their number and the rest. -/
def decimalRun (value count : Nat) : List Char → Nat × Nat × List Char
  | [] => (value, count, [])
  | c :: rest =>
    if c.isDigit then decimalRun (value * 10 + (c.toNat - '0'.toNat)) (count + 1) rest
    else (value, count, c :: rest)

/-- The exponent part of a decimal, if the text begins with one, and the rest. -/
def exponentPart (s : List Char) : Int × List Char :=
  match s with
  | c :: rest =>
    if c = 'e' || c = 'E' then
      let (negative, digits) := match rest with
        | '-' :: more => (true, more)
        | '+' :: more => (false, more)
        | _ => (false, rest)
      match decimalRun 0 0 digits with
      | (_, 0, _) => (0, s)
      | (value, _, rest) => (if negative then -(value : Int) else value, rest)
    else (0, s)
  | [] => (0, [])

/-- The number at the beginning of a text: digits, a point and more digits, an exponent. One of
the two groups of digits may be empty. The rest of the text comes with it. -/
def decimalPart (negative : Bool) (s : List Char) : Option (Double × List Char) :=
  let (whole, wholeCount, rest) := decimalRun 0 0 s
  let (value, count, fraction, rest) := match rest with
    | '.' :: more =>
      let (value, count, rest') := decimalRun whole wholeCount more
      if count = 0 then (whole, wholeCount, 0, rest) else (value, count, count - wholeCount, rest')
    | _ => (whole, wholeCount, 0, rest)
  if count = 0 then none
  else
    let (exponent, rest) := exponentPart rest
    some (Double.ofDecimal negative value (exponent - fraction), rest)

/-- The number that a text shows: a decimal, or a word for infinity or for no number. -/
def readDouble (text : String) : Option Double :=
  let (negative, body) := match text.toList with
    | '-' :: rest => (true, rest)
    | '+' :: rest => (false, rest)
    | s => (false, s)
  let word := String.ofList (body.map Char.toLower)
  if word = "inf" || word = "infinity" then some (.infinity negative)
  else if word = "nan" then some .nan
  else match decimalPart negative body with
    | some (x, []) => some x
    | _ => none

end LogSift.Number
