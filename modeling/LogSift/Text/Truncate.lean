import LogSift.Text.Lines

/-!
# Shortened messages

`takeSigned` keeps the beginning of a text: `n` characters, or all but the last `-n` characters
when `n` is negative. `truncate` keeps the first line of a message when it fits into a length, and
otherwise its beginning and three dots; the length may be too small for the dots.
-/

namespace LogSift.Text

/-- The first `n` characters, or all but the last `-n`. -/
def takeSigned (n : Int) (s : List Char) : List Char :=
  if 0 ≤ n then s.take n.toNat else s.take (s.length - (-n).toNat)

/-- The first line of a message in at most `limit` characters, if there is room for the dots. -/
def truncate (limit : Int) (message : List Char) : List Char :=
  let first := (lines message).headD []
  if (first.length : Int) ≤ limit then first else takeSigned (limit - 3) first ++ ['.', '.', '.']

/-- The length that a summary allows for a message. -/
def summaryWidth : Int := 80

/-- The first line of a message, shortened. -/
def truncateText (limit : Int) (message : String) : String :=
  String.ofList (truncate limit message.toList)

end LogSift.Text
