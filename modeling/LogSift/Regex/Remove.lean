import LogSift.Regex.Node

/-!
# Removing matches

`remove` takes every match of an expression out of a text. Matches are looked for from left to
right and do not overlap. The expression has no groups and matches no empty text.
-/

namespace LogSift.Regex

/-- The length of the match of a node at a place. -/
def matchLength? (n : Node) (c : Cursor) : Option Nat :=
  (n.matchAt? c).map fun t => t.place.offset - c.offset

/-- Removes matches from the characters after a place. The first `skip` of them belong to a match
that has been found. -/
def removeFrom (n : Node) : (skip : Nat) → (before : List Char) → (offset : Nat) →
    (after : List Char) → List Char
  | _, _, _, [] => []
  | skip + 1, before, offset, x :: after => removeFrom n skip (x :: before) (offset + 1) after
  | 0, before, offset, x :: after =>
    match matchLength? n ⟨before, x :: after, offset⟩ with
    | some (length + 1) => removeFrom n length (x :: before) (offset + 1) after
    | _ => x :: removeFrom n 0 (x :: before) (offset + 1) after

/-- The text without the matches of an expression. -/
def remove (n : Node) (text : List Char) : List Char := removeFrom n 0 [] 0 text

end LogSift.Regex
