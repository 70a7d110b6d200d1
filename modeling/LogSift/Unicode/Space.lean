import LogSift.Unicode.Ranges

/-!
# Blank characters

* `isSpace`: the characters that trimming removes and that the class of blanks holds: those with
  a separator category or one of the bidirectional classes for white space.
* `isAsciiSpace`: the six blanks of ASCII.
-/

namespace LogSift.Unicode

/-- The blank code points. -/
def spaceTable : Ranges := ⟨[
  (9, 0xD), (0x1C, 0x20), (0x85, 0x85), (0xA0, 0xA0), (0x1680, 0x1680), (0x2000, 0x200A),
  (0x2028, 0x2029), (0x202F, 0x202F), (0x205F, 0x205F), (0x3000, 0x3000)]⟩

/-- Whether a character is blank. -/
def isSpace (c : Char) : Bool := spaceTable.contains c.toNat

/-- Whether a character is one of space, tab, line feed, vertical tab, form feed, return. -/
def isAsciiSpace (c : Char) : Bool := c.toNat == 0x20 || (0x9 ≤ c.toNat && c.toNat ≤ 0xD)

end LogSift.Unicode
