/-!
# Runs of names

The names of characters with consecutive code points are kept as one text, a `NameRun`. The first
name stands as it is. Each further name begins with a lower-case letter that says how many of its
first words are those of the name before it: none at `a`, one at `b` and so on; then its other words
follow. The last word of a name counts in neither, so that each further name has a word of
its own. Line feeds do not count.
-/

namespace LogSift.Unicode

/-- The names of the characters from a code point on. -/
structure NameRun where
  first : Nat
  names : String

/-- The first words of a text, with the space after each. -/
def firstWords : Nat → List Char → List Char
  | 0, _ => []
  | _, [] => []
  | count + 1, c :: rest =>
    if c = ' ' then ' ' :: firstWords count rest else c :: firstWords (count + 1) rest

/-- The code point of a name. `current` is what has been read of the name of `code`, last character
first. -/
def findName (wanted : List Char) (code : Nat) (current : List Char) : List Char → Option Nat
  | [] => if current = wanted.reverse then some code else none
  | c :: rest =>
    if c.isLower then
      if current = wanted.reverse then some code
      else
        let shared := firstWords (c.toNat - 'a'.toNat) current.reverse
        findName wanted (code + 1) shared.reverse rest
    else if c = '\n' then findName wanted code current rest
    else findName wanted code (c :: current) rest

/-- The code point of a name in a run. -/
def NameRun.find? (run : NameRun) (wanted : List Char) : Option Nat :=
  findName wanted run.first [] run.names.toList

/-- The code point of a name in some runs. -/
def findInRuns? (wanted : List Char) (runs : List NameRun) : Option Nat :=
  runs.findSome? (·.find? wanted)

end LogSift.Unicode
