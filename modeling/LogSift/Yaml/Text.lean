import LogSift.Yaml.Error

/-!
# Characters of YAML documents

The classes of characters by which a document is cut into tokens, and `Reader`, which takes
characters from the front of a text. Returns have become line feeds before a text is read.
-/

namespace LogSift.Yaml

/-! ## Classes -/

/-- Whether a document may contain a character. -/
def isAllowed (c : Char) : Bool :=
  let n := c.toNat
  n = 0x09 || n = 0x0A || n = 0x0D || (0x20 ≤ n && n ≤ 0x7E) || n = 0x85 ||
    (0xA0 ≤ n && n ≤ 0xFFFD) || 0x10000 ≤ n

/-- The mark of byte order, which takes no column. -/
def byteOrderMark : Char := Char.ofNat 0xFEFF

/-- The characters that end a line. -/
def isBreak (c : Char) : Bool :=
  c = '\n' || c.toNat = 0x85 || c.toNat = 0x2028 || c.toNat = 0x2029

/-- The line break that stands in a value for one in the document. -/
def unifyBreak (c : Char) : Char := if c.toNat = 0x85 then '\n' else c

/-- A space or a tabulator. -/
def isSpaceOrTab (c : Char) : Bool := c = ' ' || c = '\t'

/-- Whether a text begins with nothing visible: it is empty, or a space, tabulator or line break
comes first. -/
def beginsBlank : List Char → Bool
  | [] => true
  | c :: _ => isSpaceOrTab c || isBreak c

/-- Whether nothing but a space or a line break comes next. -/
def beginsGap : List Char → Bool
  | [] => true
  | c :: _ => c = ' ' || isBreak c

/-- Whether the line ends here. -/
def atLineEnd : List Char → Bool
  | [] => true
  | c :: _ => isBreak c

/-- Whether a text begins with the line that separates documents: three hyphens or three points. -/
def beginsSeparator : List Char → Bool
  | '-' :: '-' :: '-' :: rest => beginsBlank rest
  | '.' :: '.' :: '.' :: rest => beginsBlank rest
  | _ => false

/-- The characters of names. -/
def isNameChar (c : Char) : Bool := c.isAlphanum || c = '-' || c = '_'

/-! ## Reading -/

/-- A step that takes characters from the front of a text. -/
abbrev Reader := StateT (List Char) (Except Fault)

namespace Reader

/-- Refuses the document. -/
def refuse {α : Type} : Reader α := throw .malformed

/-- Refuses the document unless a condition holds. -/
def require (condition : Bool) : Reader Unit := if condition then pure () else refuse

/-- Takes the characters of a class that come next. -/
def takeWhile (p : Char → Bool) : Reader (List Char) := do
  let s ← get
  set (s.dropWhile p)
  return s.takeWhile p

/-- Skips the characters of a class that come next. -/
def skipWhile (p : Char → Bool) : Reader Unit := modify fun s => s.dropWhile p

/-- Skips spaces. -/
def skipSpaces : Reader Unit := skipWhile (· = ' ')

/-- Takes a character if it comes next. -/
def accept (c : Char) : Reader Bool := do
  match ← get with
  | d :: rest =>
    if c = d then
      set rest
      return true
    else return false
  | [] => return false

/-- Takes a character, which has to come next. -/
def expect (c : Char) : Reader Unit := do require (← accept c)

/-- Takes the characters of a class that come next, of which there has to be one. -/
def takeSome (p : Char → Bool) : Reader (List Char) := do
  let cs ← takeWhile p
  require (!cs.isEmpty)
  return cs

/-- Skips spaces, a comment and the end of the line; anything else is refused. -/
def skipRestOfLine : Reader Unit := do
  skipSpaces
  if (← get).head? = some '#' then skipWhile fun c => !isBreak c
  require (atLineEnd (← get))
  modify fun s => s.drop 1

end Reader

/-! ## Line breaks inside scalars -/

/-- Reads empty lines, which consist of blanks only: the line breaks, the number of blanks before
the first visible character and the text from there on. There is nothing to read if a separator of
documents is met. -/
def emptyLines (blank : Char → Bool) (column : Nat) :
    List Char → Option (List Char × Nat × List Char)
  | [] => some ([], column, [])
  | c :: rest =>
    if column = 0 && beginsSeparator (c :: rest) then none
    else if blank c then emptyLines blank (column + 1) rest
    else if isBreak c then
      (emptyLines blank 0 rest).map fun (breaks, column, rest) =>
        (unifyBreak c :: breaks, column, rest)
    else some ([], column, c :: rest)

/-- What a line break and the empty lines after it leave of themselves: a single line feed becomes
a space, and before empty lines it is left out. -/
def folded (first : Char) (breaks : List Char) : List Char :=
  if first ≠ '\n' then first :: breaks else if breaks.isEmpty then [' '] else breaks

end LogSift.Yaml
