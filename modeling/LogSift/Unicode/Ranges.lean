/-!
# Sets of code points

A property of characters is a table of inclusive ranges in increasing order.
-/

namespace LogSift.Unicode

/-- A set of code points: inclusive ranges in increasing order. -/
structure Ranges where
  pairs : List (Nat × Nat)

namespace Ranges

/-- Looks a code point up; the scan stops at the first range that begins past it. -/
def scan : List (Nat × Nat) → Nat → Bool
  | [], _ => false
  | (first, last) :: rest, n => if n < first then false else n ≤ last || scan rest n

/-- Whether the set holds a code point. -/
def contains (s : Ranges) (n : Nat) : Bool := scan s.pairs n

end Ranges

end LogSift.Unicode
