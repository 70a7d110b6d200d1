import LogSift.Regex.Syntax
import LogSift.Regex.Cursor
import LogSift.Unicode.Space
import LogSift.Unicode.Digit
import LogSift.Unicode.Letter
import LogSift.Unicode.Case
import LogSift.Unicode.Fold

/-!
# Tests of one character

A `CharTest` decides whether an expression that matches one character accepts a given one. When
case does not matter the character is first taken to lower case, by the rules of ASCII or of all
scripts, and the members of the test are lower case too. A test none of whose members has a case
looks at the character as it is.
-/

namespace LogSift.Regex

open Unicode

/-- How a character is changed before it is compared. -/
inductive Fold where
  | none
  | ascii
  | unicode
  deriving DecidableEq, Repr

namespace Fold

/-- The changed character. -/
def apply : Fold → Nat → Nat
  | .none, n => n
  | .ascii, n => asciiLower n
  | .unicode, n => lower n

/-- The change that flags ask for. -/
def ofFlags (f : Flags) : Fold :=
  if f.ignoreCase then (if f.ascii then .ascii else .unicode) else .none

/-- Whether a character has a case. -/
def isCased : Fold → Nat → Bool
  | .none, _ => false
  | .ascii, n => isAsciiCased n
  | .unicode, n => Unicode.isCased n

/-- Whether a range holds a character that has a case. -/
def meetsCased : Fold → Nat → Nat → Bool
  | .none, _, _ => false
  | .ascii, lo, hi => (lo ≤ 0x5A && 0x41 ≤ hi) || (lo ≤ 0x7A && 0x61 ≤ hi)
  | .unicode, lo, hi => Unicode.meetsCased lo hi

end Fold

/-- The greatest code point of the basic plane. -/
def basicLimit : Nat := 0xFFFF

/-- What a test accepts. -/
inductive Accepted where
  | char (n : Nat)
  | range (lo hi : Nat)
  | category (c : Category) (negated ascii : Bool)
  /-- The lower case of the characters of a range. -/
  | lowered (fold : Fold) (lo hi : Nat)
  /-- The characters that are in a range, or have their upper case in it. -/
  | eitherCase (lo hi : Nat)
  deriving DecidableEq, Repr

/-- Whether a character belongs to a class. -/
def Category.holds (c : Category) (ascii : Bool) (x : Char) : Bool :=
  match c, ascii with
  | .digit, true => x.isDigit
  | .digit, false => isDecimal x
  | .space, true => isAsciiSpace x
  | .space, false => isSpace x
  | .word, true => isAsciiWord x
  | .word, false => isWord x

/-- Whether a code point is the lower case of one in a range of the basic plane. -/
def inLowered (fold : Fold) (lo hi n : Nat) : Bool :=
  let hi := min hi basicLimit
  match fold with
  | .none => lo ≤ n && n ≤ hi
  | .ascii =>
    (lo ≤ n && n ≤ hi && asciiLower n == n) ||
      (0x61 ≤ n && n ≤ 0x7A && lo ≤ n - 32 && n - 32 ≤ hi)
  | .unicode => lowerImage lo hi n || (kin n).any (lowerImage lo hi)

/-- Whether a code point is accepted. -/
def Accepted.holds (n : Nat) : Accepted → Bool
  | .char m => n == m
  | .range lo hi => lo ≤ n && n ≤ hi
  | .category c negated ascii => c.holds ascii (Char.ofNat n) != negated
  | .lowered fold lo hi => inLowered fold lo hi n
  | .eitherCase lo hi => (lo ≤ n && n ≤ hi) || (lo ≤ upper n && upper n ≤ hi)

/-- A test of one character. -/
structure CharTest where
  fold : Fold
  negated : Bool
  accepted : List Accepted
  deriving DecidableEq, Repr

namespace CharTest

/-- Whether a character passes the test. -/
def holds (t : CharTest) (c : Char) : Bool :=
  let n := t.fold.apply c.toNat
  t.accepted.any (Accepted.holds n) != t.negated

/-- Whether the test is for a set of characters whose case does not matter. -/
def isFoldedSet (t : CharTest) : Bool :=
  t.fold != .none && match t.accepted with
    | [.char _] => false
    | _ => true

/-- The test for one character. -/
def ofChar (f : Flags) (negated : Bool) (n : Nat) : CharTest :=
  let fold := Fold.ofFlags f
  if fold.isCased n then
    let low := fold.apply n
    let others := if fold = .unicode then kin low else []
    ⟨fold, negated, (low :: others).map .char⟩
  else ⟨.none, negated, [.char n]⟩

/-- The test for any character. -/
def ofAny (f : Flags) : CharTest := ⟨.none, true, if f.dotAll then [] else [.char 10]⟩

/-- Whether a member of a set makes the set depend on case. -/
def memberIsCased (fold : Fold) : Member → Bool
  | .char n => fold.isCased n || (fold != .none && basicLimit < fold.apply n)
  | .range lo hi => (fold != .none && basicLimit < hi) || fold.meetsCased lo hi
  | .category _ _ => false

/-- A member of a set as it is. -/
def plainMember (ascii : Bool) : Member → Accepted
  | .char n => .char n
  | .range lo hi => .range lo hi
  | .category c negated => .category c negated ascii

/-- A member of a set in lower case. A character beyond the basic plane stays as it is. -/
def foldedMember (fold : Fold) (ascii : Bool) : Member → List Accepted
  | .char n =>
    let low := fold.apply n
    if basicLimit < low then [.char n]
    else (low :: if fold = .unicode then kin low else []).map .char
  | .range lo hi =>
    if basicLimit < hi then
      (if lo ≤ basicLimit then [.lowered fold lo hi] else []) ++ [.eitherCase lo hi]
    else [.lowered fold lo hi]
  | .category c negated => [.category c negated ascii]

/-- The test for a set of characters. -/
def ofSet (f : Flags) (negated : Bool) (members : List Member) : CharTest :=
  let fold := Fold.ofFlags f
  if members.any (memberIsCased fold) then
    ⟨fold, negated, members.flatMap (foldedMember fold f.ascii)⟩
  else ⟨.none, negated, members.map (plainMember f.ascii)⟩

end CharTest

/-- Whether the character after a place passes a test. -/
def Cursor.sees (c : Cursor) (t : CharTest) : Bool := c.after.head?.any t.holds

end LogSift.Regex
