import LogSift.Unicode.Printable

/-!
# Quoted texts

A text is shown between single quotes, or between double quotes when it holds a single quote and
no double one. A backslash and the quote in use are escaped, and so is every character that cannot
be shown as itself. Octets are shown like texts of ASCII characters.
-/

namespace LogSift.Text

/-- The hexadecimal digits of a number, in lower case, at least `width` of them. -/
def hex (width n : Nat) : List Char :=
  let digits := Nat.toDigits 16 n
  List.replicate (width - digits.length) '0' ++ digits

/-- The escape of a code point by its number. -/
def numericEscape (n : Nat) : List Char :=
  if n ≤ 0xFF then '\\' :: 'x' :: hex 2 n
  else if n ≤ 0xFFFF then '\\' :: 'u' :: hex 4 n
  else '\\' :: 'U' :: hex 8 n

/-- The quote that encloses a text. -/
def quoteFor (s : List Char) : Char :=
  if s.contains '\'' && !s.contains '"' then '"' else '\''

/-- One character of a quoted text. -/
def quoteChar (quote c : Char) : List Char :=
  if c = quote || c = '\\' then ['\\', c]
  else if c = '\n' then ['\\', 'n']
  else if c = '\r' then ['\\', 'r']
  else if c = '\t' then ['\\', 't']
  else if Unicode.isPrintable c then [c]
  else numericEscape c.toNat

/-- The text in quotes. -/
def quote (s : String) : String :=
  let cs := s.toList
  let q := quoteFor cs
  String.ofList (q :: cs.flatMap (quoteChar q) ++ [q])

/-- Octets in quotes, marked by a letter in front. -/
def quoteOctets (octets : List UInt8) : String :=
  let cs := octets.map fun b => Char.ofNat b.toNat
  let q := quoteFor cs
  let body := cs.flatMap fun c => if 0x7F ≤ c.toNat then numericEscape c.toNat else quoteChar q c
  String.ofList ('b' :: q :: body ++ [q])

end LogSift.Text
