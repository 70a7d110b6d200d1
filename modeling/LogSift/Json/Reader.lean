import LogSift.Number.Integer
import LogSift.Text.Position
import LogSift.Value.Basic

/-!
# Reading JSON

`Json.read` reads one document. It accepts the words `NaN`, `Infinity` and `-Infinity` as numbers
besides the standard grammar. When a name occurs twice in an object the first occurrence fixes the
place and the last one the value. A fault is reported at the character where it is noticed.

An escape can stand for half a pair of surrogates. No text here holds one: a document that is in
order but for a lone surrogate is left out, which is an error of its own.

The functions that read a part of the document return the rest of it; a fault carries the number of
characters that are left, which fixes its position.
-/

namespace LogSift.Json

open LogSift.Number

/-- What is wrong with a document. -/
inductive Fault where
  | expectedValue
  | expectedComma
  | expectedColon
  | expectedName
  | unterminatedString
  | controlCharacter
  | invalidEscape
  | invalidCodeEscape
  | extraData
  | byteOrderMark
  deriving DecidableEq, Repr

/-- The wording of a fault. -/
def Fault.message : Fault → String
  | .expectedValue => "Expecting value"
  | .expectedComma => "Expecting ',' delimiter"
  | .expectedColon => "Expecting ':' delimiter"
  | .expectedName => "Expecting property name enclosed in double quotes"
  | .unterminatedString => "Unterminated string starting at"
  | .controlCharacter => "Invalid control character at"
  | .invalidEscape => "Invalid \\escape"
  | .invalidCodeEscape => "Invalid \\uXXXX escape"
  | .extraData => "Extra data"
  | .byteOrderMark => "Unexpected UTF-8 BOM (decode using utf-8-sig)"

/-- Why a document is refused. -/
inductive Error where
  /-- The document is not well-formed. -/
  | malformed (fault : Fault) (line column position : Nat)
  /-- The document holds an integer that is too long. -/
  | integer (fault : IntegerFault)
  /-- The document is in order, but one of its strings escapes a lone surrogate. -/
  | loneSurrogate
  deriving DecidableEq, Repr

/-- The wording of an error. -/
def Error.message : Error → String
  | .malformed fault line column position =>
    fault.message ++ ": line " ++ toString line ++ " column " ++ toString column ++ " (char "
      ++ toString position ++ ")"
  | .integer fault => fault.message
  | .loneSurrogate => "lone surrogate"

/-- A fault while a part is read, with the number of characters left. -/
inductive Stop where
  | malformed (fault : Fault) (left : Nat)
  | integer (fault : IntegerFault)

/-- Whether a character is blank between the parts of a document. -/
def isBlank (c : Char) : Bool := c = ' ' || c = '\t' || c = '\n' || c = '\r'

/-- The text without blanks at its beginning. -/
def skipBlanks (s : List Char) : List Char := s.dropWhile isBlank

/-- The value of a hexadecimal digit. -/
def hexValue? (c : Char) : Option Nat :=
  if c.isDigit then some (c.toNat - '0'.toNat)
  else if 'a' ≤ c ∧ c ≤ 'f' then some (c.toNat - 'a'.toNat + 10)
  else if 'A' ≤ c ∧ c ≤ 'F' then some (c.toNat - 'A'.toNat + 10)
  else none

/-- The number that four hexadecimal digits show. -/
def code? (a b c d : Char) : Option Nat := do
  let a ← hexValue? a
  let b ← hexValue? b
  let c ← hexValue? c
  let d ← hexValue? d
  return ((a * 16 + b) * 16 + c) * 16 + d

/-- The character that a backslash and a letter stand for. -/
def simpleEscape? : Char → Option Char
  | '"' => some '"'
  | '\\' => some '\\'
  | '/' => some '/'
  | 'b' => some '\x08'
  | 'f' => some '\x0c'
  | 'n' => some '\n'
  | 'r' => some '\r'
  | 't' => some '\t'
  | _ => none

/-- Whether a code is the first half of a pair of surrogates. -/
def isHighSurrogate (n : Nat) : Bool := 0xD800 ≤ n && n ≤ 0xDBFF

/-- Whether a code is the second half of a pair of surrogates. -/
def isLowSurrogate (n : Nat) : Bool := 0xDC00 ≤ n && n ≤ 0xDFFF

/-- The character with a code, which half a pair of surrogates does not have. -/
def charOfCode? (n : Nat) : Option Char :=
  if isHighSurrogate n || isLowSurrogate n then none else some (Char.ofNat n)

/-- What follows the backslash of a code escape that starts with the letter `u`. -/
structure CodeEscape where
  /-- The character, or none for a lone surrogate. -/
  char? : Option Char
  /-- How many characters after the letter belong to the escape. -/
  length : Nat

/-- Reads the code after `\u`, and a second escape that completes a pair of surrogates. -/
def codeEscape? : List Char → Except Nat CodeEscape
  | a :: b :: c :: d :: rest =>
    if rest.isEmpty then .error 0
    else match code? a b c d with
      | none => .error 0
      | some high =>
        if isHighSurrogate high then
          match rest with
          | '\\' :: 'u' :: e :: f :: g :: h :: _ :: _ =>
            match code? e f g h with
            | none => .error 6
            | some low =>
              if isLowSurrogate low then
                .ok ⟨some (Char.ofNat (0x10000 + (high - 0xD800) * 0x400 + (low - 0xDC00))), 10⟩
              else .ok ⟨charOfCode? high, 4⟩
          | _ => .ok ⟨charOfCode? high, 4⟩
        else .ok ⟨charOfCode? high, 4⟩
  | _ => .error 0

/-- Reads the characters of a string up to the closing quote. `opened` is the number of characters
left at the opening quote, `skip` how many characters belong to an escape that has been read. -/
def readChars (opened : Nat) (skip : Nat) : List Char → Except Stop (List Char × List Char)
  | [] => .error (.malformed .unterminatedString opened)
  | c :: rest =>
    if 0 < skip then readChars opened (skip - 1) rest
    else if c = '"' then .ok ([], rest)
    else if c = '\\' then
      match rest with
      | [] => .error (.malformed .unterminatedString opened)
      | 'u' :: more =>
        match codeEscape? more with
        | .error offset => .error (.malformed .invalidCodeEscape (rest.length - offset))
        | .ok escape => do
          let (cs, rest') ← readChars opened (escape.length + 1) rest
          -- A fault behind a lone surrogate counts first, so another character takes its place.
          return (escape.char?.getD (Char.ofNat 0xFFFD) :: cs, rest')
      | e :: _ =>
        match simpleEscape? e with
        | none => .error (.malformed .invalidEscape (rest.length + 1))
        | some x => do
          let (cs, rest') ← readChars opened 1 rest
          return (x :: cs, rest')
    else if c.toNat < 0x20 then .error (.malformed .controlCharacter (rest.length + 1))
    else do
      let (cs, rest') ← readChars opened 0 rest
      return (c :: cs, rest')

/-- Whether a well-formed document escapes a lone surrogate. Backslashes stand in strings only, so
the strings need not be told from the rest. `skip` is how many characters belong to an escape that
has been read. -/
def hasLoneSurrogate (skip : Nat) : List Char → Bool
  | [] => false
  | c :: rest =>
    if 0 < skip then hasLoneSurrogate (skip - 1) rest
    else if c = '\\' then
      match rest with
      | 'u' :: more =>
        match codeEscape? more with
        | .ok ⟨none, _⟩ => true
        | .ok ⟨some _, length⟩ => hasLoneSurrogate (length + 1) rest
        | .error _ => hasLoneSurrogate 1 rest
      | _ => hasLoneSurrogate 1 rest
    else hasLoneSurrogate 0 rest

/-- Reads a string after its opening quote. -/
def readString (s : List Char) : Except Stop (String × List Char) :=
  (readChars (s.length + 1) 0 s).map fun (cs, rest) => (String.ofList cs, rest)

/-- The fraction of a number, if it has a digit: value, number of digits and rest. -/
def fractionPart (whole : Nat) : List Char → Option (Nat × Nat × List Char)
  | '.' :: rest =>
    match decimalRun whole 0 rest with
    | (_, 0, _) => none
    | (value, count, rest) => some (value, count, rest)
  | _ => none

/-- Whether a text begins with an exponent. -/
def startsWithExponent (s : List Char) : Bool := (exponentPart s).2.length < s.length

/-- Reads a number. An integer keeps its exact value. -/
def readNumber (s : List Char) : Except Stop (Value × List Char) :=
  let (negative, body) := match s with
    | '-' :: rest => (true, rest)
    | _ => (false, s)
  let (whole, count, rest) := match body with
    | '0' :: rest => (0, 1, rest)
    | _ => decimalRun 0 0 body
  if count = 0 then .error (.malformed .expectedValue s.length)
  else
    match fractionPart whole rest with
    | some (value, places, rest) =>
      let (exponent, rest) := exponentPart rest
      .ok (.float (.ofDecimal negative value (exponent - places)), rest)
    | none =>
      if startsWithExponent rest then
        let (exponent, rest) := exponentPart rest
        .ok (.float (.ofDecimal negative whole exponent), rest)
      else if digitLimit < count then .error (.integer (.tooManyDigits count))
      else .ok (.int (if negative then -(whole : Int) else whole), rest)

/-- The words of the grammar and their values. -/
def words : List (List Char × Value) :=
  [("null".toList, .null), ("true".toList, .bool true), ("false".toList, .bool false),
    ("NaN".toList, .float .nan), ("Infinity".toList, .float (.infinity false)),
    ("-Infinity".toList, .float (.infinity true))]

/-- The word at the beginning of a text. -/
def readWord? (s : List Char) : Option (Value × List Char) :=
  words.findSome? fun (word, value) =>
    if word.isPrefixOf s then some (value, s.drop word.length) else none

mutual

/-- Reads a value. The first argument bounds the number of values and brackets. -/
def readValue : Nat → List Char → Except Stop (Value × List Char)
  | 0, s => .error (.malformed .expectedValue s.length)
  | fuel + 1, s =>
    match s with
    | [] => .error (.malformed .expectedValue 0)
    | '"' :: rest => (readString rest).map fun (text, rest) => (.text text, rest)
    | '\x7b' :: rest =>
      match skipBlanks rest with
      | '\x7d' :: rest => .ok (.map [], rest)
      | rest => (readMembers fuel [] rest).map fun (entries, rest) => (.map entries, rest)
    | '[' :: rest =>
      match skipBlanks rest with
      | ']' :: rest => .ok (.list [], rest)
      | rest => (readItems fuel rest).map fun (items, rest) => (.list items, rest)
    | _ =>
      match readWord? s with
      | some found => .ok found
      | none => readNumber s

/-- Reads the items of a list up to its closing bracket. -/
def readItems : Nat → List Char → Except Stop (List Value × List Char)
  | 0, s => .error (.malformed .expectedValue s.length)
  | fuel + 1, s => do
    let (item, rest) ← readValue fuel s
    match skipBlanks rest with
    | ']' :: rest => return ([item], rest)
    | ',' :: rest =>
      let (items, rest) ← readItems fuel (skipBlanks rest)
      return (item :: items, rest)
    | rest => throw (.malformed .expectedComma rest.length)

/-- Reads the members of an object up to its closing bracket, after some that have been read. -/
def readMembers : Nat → Entries Value → List Char → Except Stop (Entries Value × List Char)
  | 0, _, s => .error (.malformed .expectedValue s.length)
  | fuel + 1, entries, s =>
    match s with
    | '"' :: rest => do
      let (name, rest) ← readString rest
      match skipBlanks rest with
      | ':' :: rest =>
        let (value, rest) ← readValue fuel (skipBlanks rest)
        let entries := entries.set (.text name) value
        match skipBlanks rest with
        | '\x7d' :: rest => return (entries, rest)
        | ',' :: rest => readMembers fuel entries (skipBlanks rest)
        | rest => throw (.malformed .expectedComma rest.length)
      | rest => throw (.malformed .expectedColon rest.length)
    | _ => .error (.malformed .expectedName s.length)

end

/-- Reads the characters of a whole document. -/
def readDocument (s : List Char) : Except Stop Value := do
  if s.head? = some (Char.ofNat 0xFEFF) then throw (.malformed .byteOrderMark s.length)
  let (value, rest) ← readValue (2 * s.length + 2) (skipBlanks s)
  match skipBlanks rest with
  | [] => return value
  | rest => throw (.malformed .extraData rest.length)

/-- Reads a document. -/
def read (document : String) : Except Error Value :=
  let s := document.toList
  match readDocument s with
  | .ok value => if hasLoneSurrogate 0 s then .error .loneSurrogate else .ok value
  | .error (.integer fault) => .error (.integer fault)
  | .error (.malformed fault left) =>
    let position := s.length - left
    .error (.malformed fault (Text.lineAt s position) (Text.columnAt s position) position)

end LogSift.Json
