import LogSift.Regex.Remove

/-!
# Escape sequences of terminals

An escape sequence is the escape character with one character of a range, or a control sequence:
the escape character, an opening bracket, any number of parameters, any number of intermediate
characters and one final character.

* `Ansi.sequence`: escape sequences as an expression, and `Ansi.strip`, which removes its matches.
* `Ansi.scan`: a reader that removes escape sequences in one pass and never goes back.
-/

namespace LogSift.Text.Ansi

open Regex

/-- A test for ranges of characters. -/
def ranges (pairs : List (Nat × Nat)) : CharTest :=
  ⟨.none, false, pairs.map fun (lo, hi) => .range lo hi⟩

/-- The escape character. -/
def escape : Char := '\x1b'

/-- What follows the escape character in a sequence of two characters. -/
def single : CharTest := ranges [(0x40, 0x5A), (0x5C, 0x5F)]

/-- The parameters of a control sequence. -/
def parameter : CharTest := ranges [(0x30, 0x3F)]

/-- The intermediate characters of a control sequence. -/
def intermediate : CharTest := ranges [(0x20, 0x2F)]

/-- The last character of a control sequence. -/
def final : CharTest := ranges [(0x40, 0x7E)]

/-- The test for one character. -/
def only (c : Char) : CharTest := ⟨.none, false, [.char c.toNat]⟩

/-- The control sequences without the escape character. -/
def control : Node :=
  .seq (.test (only '[')) (.seq (.span .greedy ⟨0, none, parameter, none⟩)
    (.seq (.span .greedy ⟨0, none, intermediate, none⟩) (.test final)))

/-- The escape sequences. -/
def sequence : Node :=
  .seq (.test (only escape))
    (.alt (some single) (.test single) (.alt (some (only '[')) control .never))

/-- The text without escape sequences. -/
def strip (s : List Char) : List Char := remove sequence s

/-- The text without escape sequences. -/
def stripText (s : String) : String := String.ofList (strip s.toList)

/-! ## One pass -/

/-- The number of characters of a control sequence after the bracket. -/
def controlLength? (s : List Char) : Option Nat :=
  let parameters := s.takeWhile parameter.holds
  let rest := s.dropWhile parameter.holds
  let intermediates := rest.takeWhile intermediate.holds
  match rest.dropWhile intermediate.holds with
  | c :: _ => if final.holds c then some (parameters.length + intermediates.length + 1) else none
  | [] => none

/-- The number of characters of an escape sequence after the escape character. -/
def sequenceLength? (s : List Char) : Option Nat :=
  match s with
  | '[' :: rest => (controlLength? rest).map (· + 1)
  | c :: _ => if single.holds c then some 1 else none
  | [] => none

/-- Reads a text and leaves out escape sequences. The first `skip` characters belong to one. -/
def scanFrom : (skip : Nat) → List Char → List Char
  | _, [] => []
  | skip + 1, _ :: rest => scanFrom skip rest
  | 0, c :: rest =>
    if c = escape then
      match sequenceLength? rest with
      | some n => scanFrom n rest
      | none => c :: scanFrom 0 rest
    else c :: scanFrom 0 rest

/-- The text without escape sequences, in one pass. -/
def scan (s : List Char) : List Char := scanFrom 0 s

end LogSift.Text.Ansi
