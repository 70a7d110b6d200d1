/-!
# Places in a text

A `Cursor` is a place in a text: the characters before it, nearest first, those after it, and its
offset. Moving it keeps the text.
-/

namespace LogSift.Regex

/-- A place in a text. -/
structure Cursor where
  before : List Char
  after : List Char
  offset : Nat
  deriving DecidableEq, Repr

namespace Cursor

/-- The beginning of a text. -/
def start (text : List Char) : Cursor := ⟨[], text, 0⟩

/-- The whole text. -/
def text (c : Cursor) : List Char := c.before.reverse ++ c.after

/-- The part of the text between two offsets. -/
def slice (c : Cursor) (first last : Nat) : List Char := (c.text.drop first).take (last - first)

/-- A number of characters back, if there are as many. -/
def back : Nat → Cursor → Option Cursor
  | 0, c => some c
  | n + 1, c => match c.before with
    | [] => none
    | x :: before => back n ⟨before, x :: c.after, c.offset - 1⟩

/-- Whether a number of characters follow a place. -/
def hasAhead (c : Cursor) (n : Nat) : Bool := n = 0 || !(c.after.drop (n - 1)).isEmpty

/-- The place behind the characters that follow and pass a test, of which at most a given number
count. -/
def skip (p : Char → Bool) (most : Option Nat) (c : Cursor) : Cursor :=
  go most c.before c.offset c.after
where
  /-- The place, from the parts of the place before it. -/
  go : Option Nat → List Char → Nat → List Char → Cursor
    | _, before, offset, [] => ⟨before, [], offset⟩
    | most, before, offset, x :: after =>
      if most ≠ some 0 ∧ p x then go (most.map (· - 1)) (x :: before) (offset + 1) after
      else ⟨before, x :: after, offset⟩

end Cursor

end LogSift.Regex
