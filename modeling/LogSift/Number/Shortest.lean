import LogSift.Number.Double

/-!
# Shortest decimals

`shortestDigits` finds the fewest digits that read back as a number, and of those the ones nearest
to it. `Double.text` writes them: without exponent from 10^-4 up to 10^16, with one elsewhere, and
with a point in any case.
-/

namespace LogSift.Number

/-- A decimal: the digits as one number, and where the point stands counted from before the first
digit. -/
structure Decimal where
  digits : List Char
  point : Int
  deriving DecidableEq, Repr

/-- The decimal without zeros at its end. -/
def Decimal.trimmed (d : Decimal) : Decimal :=
  ⟨(d.digits.reverse.dropWhile (· == '0')).reverse, d.point⟩

/-- Where the point stands in a positive ratio above 10^-330. -/
def pointOf (num den : Nat) : Int :=
  ((Nat.toDigits 10 (num * Nat.pow 10 330 / den)).length : Int) - 330

/-- Whether a ratio lies between two others, ends included or not. -/
def between (inclusive : Bool) (low high x : Nat × Nat) : Bool :=
  let below (a b : Nat × Nat) : Bool :=
    if inclusive then a.1 * b.2 ≤ b.1 * a.2 else a.1 * b.2 < b.1 * a.2
  below low x && below x high

/-- The decimal with `count` digits that lies in an interval and is nearest to a value. -/
def nearestWith (inclusive : Bool) (low high value : Nat × Nat) (point : Int) (count : Nat) :
    Option Decimal :=
  let grid : Int := point - count
  let asRatio (n : Nat) : Nat × Nat :=
    if 0 ≤ grid then (n * Nat.pow 10 grid.toNat, 1) else (n, Nat.pow 10 (-grid).toNat)
  let scaled : Nat × Nat :=
    if 0 ≤ grid then (value.1, value.2 * Nat.pow 10 grid.toNat)
    else (value.1 * Nat.pow 10 (-grid).toNat, value.2)
  let down := scaled.1 / scaled.2
  let up := down + 1
  let downHit := between inclusive low high (asRatio down)
  let upHit := between inclusive low high (asRatio up)
  let twice := 2 * (scaled.1 % scaled.2)
  let chosen : Option Nat :=
    if downHit && upHit then
      some (if twice < scaled.2 then down else if scaled.2 < twice then up
        else if down % 2 = 0 then down else up)
    else if downHit then some down
    else if upHit then some up
    else none
  chosen.map fun n =>
    let digits := Nat.toDigits 10 n
    (⟨digits, point + (digits.length - count : Int)⟩ : Decimal).trimmed

/-- The first count of digits, from `count` on, with which a decimal lies in the interval. -/
def searchDigits (inclusive : Bool) (low high value : Nat × Nat) (point : Int) :
    (fuel count : Nat) → Decimal
  | 0, _ => ⟨['0'], 1⟩
  | fuel + 1, count =>
    match nearestWith inclusive low high value point count with
    | some d => d
    | none => searchDigits inclusive low high value point fuel (count + 1)

/-- The shortest decimal that reads back as a mantissa times a power of two. -/
def shortestDigits (mantissa : Nat) (exponent : Int) : Decimal :=
  if mantissa = 0 then ⟨['0'], 1⟩
  else
    let at_ (quarters : Nat) : Nat × Nat := Double.scale quarters 1 (exponent - 2)
    let value := at_ (4 * mantissa)
    let high := at_ (4 * mantissa + 2)
    let narrow := mantissa = Nat.pow 2 52 && Double.leastExponent < exponent
    let low := at_ (4 * mantissa - if narrow then 1 else 2)
    searchDigits (mantissa % 2 = 0) low high value (pointOf value.1 value.2) 17 1

/-- A decimal in positional notation, with at least one digit on each side of the point. -/
def Decimal.positional (d : Decimal) : List Char :=
  if d.point ≤ 0 then
    '0' :: '.' :: (List.replicate (-d.point).toNat '0' ++ d.digits)
  else
    let whole := d.point.toNat
    let front := d.digits.take whole ++ List.replicate (whole - d.digits.length) '0'
    let back := d.digits.drop whole
    front ++ '.' :: (if back.isEmpty then ['0'] else back)

/-- A decimal with one digit before the point and an exponent of at least two digits. -/
def Decimal.scientific (d : Decimal) : List Char :=
  let e := d.point - 1
  let digits := Nat.toDigits 10 e.natAbs
  let padded := if digits.length < 2 then '0' :: digits else digits
  let front := match d.digits with
    | [] => []
    | [c] => [c]
    | c :: rest => c :: '.' :: rest
  front ++ 'e' :: (if e < 0 then '-' else '+') :: padded

/-- The text of a number. -/
def Double.text : Double → String
  | .nan => "nan"
  | .infinity negative => if negative then "-inf" else "inf"
  | .finite negative m e =>
    let d := shortestDigits m e
    let body := if -4 < d.point && d.point ≤ 16 then d.positional else d.scientific
    String.ofList (if negative then '-' :: body else body)

end LogSift.Number
