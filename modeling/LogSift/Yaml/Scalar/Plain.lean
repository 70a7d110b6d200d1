import LogSift.Yaml.Text

/-!
# Plain scalars

A plain scalar is written without quotes. It consists of runs of characters between which spaces and
line breaks may lie; it ends before a colon or a comment, inside brackets also before their
punctuation, and at a line that is not indented enough.
-/

namespace LogSift.Yaml

/-- The characters by which no plain scalar begins. -/
def indicators : List Char := "-?:,[]\x7b\x7d#&*!|>'\"%@".toList ++ [Char.ofNat 0x60]

/-- The punctuation that ends a plain scalar inside brackets. -/
def bracketPunctuation : List Char := ",?[]\x7b\x7d".toList

/-- Whether a text begins with a plain scalar. Some indicators may begin one if a visible character
follows. -/
def beginsPlain (inBrackets : Bool) : List Char → Bool
  | [] => false
  | c :: rest =>
    !(isSpaceOrTab c || isBreak c || indicators.contains c) ||
      (!beginsBlank rest && (c = '-' || (!inBrackets && (c = '?' || c = ':'))))

/-- Whether a colon before this text ends a plain scalar. -/
def endsAtColon (inBrackets : Bool) (rest : List Char) : Bool :=
  beginsBlank rest || (inBrackets && match rest with
    | c :: _ => ",[]\x7b\x7d".toList.contains c
    | [] => false)

/-- The longest run of characters of a plain scalar, and the rest. -/
def plainRun (inBrackets : Bool) : List Char → List Char × List Char
  | [] => ([], [])
  | c :: rest =>
    if isSpaceOrTab c || isBreak c || (c = ':' && endsAtColon inBrackets rest) ||
        (inBrackets && bracketPunctuation.contains c) then ([], c :: rest)
    else
      let (run, rest) := plainRun inBrackets rest
      (c :: run, rest)

/-- What lies between two runs of a plain scalar leaves of itself, with the text after it. There is
nothing if the scalar cannot go on. The lines of a scalar outside of brackets are indented by at
least `margin` columns. -/
def plainJoint (inBrackets : Bool) (margin : Nat) (s : List Char) :
    Option (List Char × List Char) :=
  let spaces := s.takeWhile (· = ' ')
  match s.dropWhile (· = ' ') with
  | [] => none
  | c :: rest =>
    let joint :=
      if isBreak c then
        match emptyLines (· = ' ') 0 rest with
        | some (breaks, column, rest) =>
          if inBrackets || margin ≤ column then some (folded (unifyBreak c) breaks, rest)
          else none
        | none => none
      else if spaces.isEmpty then none
      else some (spaces, c :: rest)
    match joint with
    | some (_, '#' :: _) => none
    | joint => joint

/-- Reads a plain scalar. The first argument bounds the number of runs. -/
def plainFrom (inBrackets : Bool) (margin : Nat) : Nat → List Char → List Char × List Char
  | 0, s => ([], s)
  | fuel + 1, s =>
    let (run, rest) := plainRun inBrackets s
    match plainJoint inBrackets margin rest with
    | none => (run, rest)
    | some (joint, next) =>
      match plainFrom inBrackets margin fuel next with
      | ([], _) => (run, rest)
      | (more, rest) => (run ++ joint ++ more, rest)

/-- Reads a plain scalar. -/
def readPlain (inBrackets : Bool) (margin : Nat) : Reader (List Char) := fun s =>
  .ok (plainFrom inBrackets margin (s.length + 1) s)

end LogSift.Yaml
