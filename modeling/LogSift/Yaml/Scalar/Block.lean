import LogSift.Yaml.Text

/-!
# Block scalars

A block scalar consists of the indented lines below its header. The header says whether line breaks
are kept or folded, what happens to those at the end, and by how much the lines are indented; if it
does not say, the first line that is not empty decides.
-/

namespace LogSift.Yaml

/-- What becomes of the line breaks at the end of a block scalar. -/
inductive Chomping where
  /-- All of them are removed. -/
  | strip
  /-- The first one stays. -/
  | clip
  /-- All of them stay. -/
  | keep
  deriving DecidableEq, Repr

/-- The header of a block scalar. -/
structure BlockHeader where
  chomping : Chomping
  /-- By how much the lines are indented. -/
  increment : Option Nat

/-- Reads a sign for the end of the scalar. -/
def readChomping : Reader Chomping := do
  if ← Reader.accept '+' then return .keep
  else if ← Reader.accept '-' then return .strip
  else return .clip

/-- Reads a digit for the indentation, which is not zero. -/
def readIncrement : Reader (Option Nat) := do
  match ← get with
  | c :: rest =>
    if c.isDigit then
      Reader.require (c != '0')
      set rest
      return some (c.toNat - '0'.toNat)
    else return none
  | [] => return none

/-- Reads the header of a block scalar and the end of its line. -/
def readBlockHeader : Reader BlockHeader := do
  let before ← readChomping
  let increment ← readIncrement
  let after ← if before = .clip && increment.isSome then readChomping else pure .clip
  Reader.require (beginsGap (← get))
  Reader.skipRestOfLine
  return ⟨if before = .clip then after else before, increment⟩

/-- Reads empty lines before a line that is indented by up to a number of columns: the line breaks
and the column and text after them. -/
def blockBreaks (indent column : Nat) : List Char → List Char × Nat × List Char
  | [] => ([], column, [])
  | c :: rest =>
    if c = ' ' && column < indent then blockBreaks indent (column + 1) rest
    else if isBreak c then
      let (breaks, column, rest) := blockBreaks indent 0 rest
      (unifyBreak c :: breaks, column, rest)
    else ([], column, c :: rest)

/-- The greatest column that is reached by spaces at the beginning of the lines up to the first
visible character. -/
def greatestColumn (column : Nat) : List Char → Nat
  | [] => column
  | c :: rest =>
    if c = ' ' then greatestColumn (column + 1) rest
    else if isBreak c then max column (greatestColumn 0 rest)
    else column

/-- What stands between two lines of a block scalar, apart from the empty lines. -/
def blockJoint (fold : Bool) (lineBreak : List Char) (line breaks next : List Char) : List Char :=
  let visible (s : List Char) : Bool := match s with
    | c :: _ => !isSpaceOrTab c
    | [] => true
  if fold && lineBreak = ['\n'] && visible line && visible next then
    if breaks.isEmpty then [' '] else []
  else lineBreak

/-- What stays of the line breaks at the end. -/
def chomped (chomping : Chomping) (lineBreak breaks : List Char) : List Char :=
  match chomping with
  | .strip => []
  | .clip => lineBreak
  | .keep => lineBreak ++ breaks

/-- Reads the lines of a block scalar that are indented by a number of columns, after empty lines
that have been read. The first argument bounds the number of lines. -/
def blockLines (fold : Bool) (chomping : Chomping) (indent : Nat) :
    Nat → List Char × Nat × List Char → List Char × List Char
  | 0, (_, _, s) => ([], s)
  | fuel + 1, (breaks, column, s) =>
    if column = indent && !s.isEmpty then
      let line := s.takeWhile fun c => !isBreak c
      let rest := s.dropWhile fun c => !isBreak c
      let lineBreak := (rest.take 1).map unifyBreak
      let (empty, column, next) := blockBreaks indent 0 (rest.drop 1)
      if column = indent && !next.isEmpty then
        let (more, rest) := blockLines fold chomping indent fuel (empty, column, next)
        (breaks ++ line ++ blockJoint fold lineBreak line empty next ++ more, rest)
      else (breaks ++ line ++ chomped chomping lineBreak empty, next)
    else (chomped chomping [] breaks, s)

/-- Reads a block scalar after its indicator. `margin` is the least indentation of its lines. -/
def readBlock (fold : Bool) (margin : Nat) : Reader (List Char) := do
  let header ← readBlockHeader
  let s ← get
  let margin := max 1 margin
  let indent := match header.increment with
    | some n => margin + n - 1
    | none => max margin (greatestColumn 0 s)
  let (text, rest) := blockLines fold header.chomping indent (s.length + 1) (blockBreaks indent 0 s)
  set rest
  return text

end LogSift.Yaml
