/-!
# Positions

A position in a text is the number of characters before it. `lineAt` and `columnAt` say where
a reader finds it; both count from one.
-/

namespace LogSift.Text

/-- The line of a position. -/
def lineAt (s : List Char) (position : Nat) : Nat := (s.take position).count '\n' + 1

/-- The column of a position in its line. -/
def columnAt (s : List Char) (position : Nat) : Nat :=
  ((s.take position).reverse.takeWhile (· != '\n')).length + 1

end LogSift.Text
