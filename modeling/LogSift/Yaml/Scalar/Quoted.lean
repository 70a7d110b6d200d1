import LogSift.Yaml.Text
import LogSift.Json.Reader

/-!
# Quoted scalars

Between single quotes a quote is written twice and nothing else is special. Between double quotes a
backslash begins an escape. Line breaks are folded in both, together with the blanks around them.
-/

namespace LogSift.Yaml

/-- The character that stands for a letter after a backslash. -/
def escapedChar? (c : Char) : Option Char :=
  match c with
  | '0' => some (Char.ofNat 0)
  | 'a' => some (Char.ofNat 7)
  | 'b' => some (Char.ofNat 8)
  | 't' | '\t' => some '\t'
  | 'n' => some '\n'
  | 'v' => some (Char.ofNat 11)
  | 'f' => some (Char.ofNat 12)
  | 'r' => some '\r'
  | 'e' => some (Char.ofNat 27)
  | ' ' => some ' '
  | '"' => some '"'
  | '\\' => some '\\'
  | '/' => some '/'
  | 'N' => some (Char.ofNat 0x85)
  | '_' => some (Char.ofNat 0xA0)
  | 'L' => some (Char.ofNat 0x2028)
  | 'P' => some (Char.ofNat 0x2029)
  | _ => none

/-- The number of digits that a letter after a backslash asks for. -/
def codeLength? (c : Char) : Option Nat :=
  match c with
  | 'x' => some 2
  | 'u' => some 4
  | 'U' => some 8
  | _ => none

/-- Reads a number of hexadecimal digits after the ones with a value. -/
def hexDigits (value : Nat) : Nat → Reader Nat
  | 0 => return value
  | count + 1 => do
    match ← get with
    | c :: rest =>
      match Json.hexValue? c with
      | some d =>
        set rest
        hexDigits (16 * value + d) count
      | none => Reader.refuse
    | [] => Reader.refuse

/-- The character with a code. -/
def charOfCode (code : Nat) : Except Fault Char :=
  if code.isValidChar then .ok (Char.ofNat code)
  else if code < 0x110000 then .error .loneSurrogate
  else .error (.character code)

/-- Reads the empty lines inside quotes. -/
def quotedLines : Reader (List Char) := do
  match emptyLines isSpaceOrTab 0 (← get) with
  | some (breaks, _, rest) =>
    set rest
    return breaks
  | none => Reader.refuse

/-- Reads what follows a backslash. -/
def readEscape : Reader (List Char) := do
  match ← get with
  | [] => Reader.refuse
  | c :: rest =>
    set rest
    match escapedChar? c, codeLength? c with
    | some x, _ => return [x]
    | none, some count => return [← charOfCode (← hexDigits 0 count)]
    | none, none => if isBreak c then quotedLines else Reader.refuse

/-- Reads blanks and a line break that may follow them. -/
def quotedBlanks : Reader (List Char) := do
  let blanks ← Reader.takeWhile isSpaceOrTab
  match ← get with
  | [] => Reader.refuse
  | c :: rest =>
    if isBreak c then
      set rest
      return folded (unifyBreak c) (← quotedLines)
    else return blanks

/-- Reads a quoted scalar up to the closing quote, which is taken too. The first argument bounds the
number of steps. -/
def quotedFrom (quote : Char) : Nat → Reader (List Char)
  | 0 => Reader.refuse
  | fuel + 1 => do
    match ← get with
    | [] => Reader.refuse
    | c :: rest =>
      if c = quote then
        set rest
        match quote, rest with
        | '\'', '\'' :: more =>
          set more
          return '\'' :: (← quotedFrom quote fuel)
        | _, _ => return []
      else if c = '\\' && quote = '"' then
        set rest
        let escaped ← readEscape
        return escaped ++ (← quotedFrom quote fuel)
      else if isSpaceOrTab c || isBreak c then
        let blanks ← quotedBlanks
        return blanks ++ (← quotedFrom quote fuel)
      else
        set rest
        return c :: (← quotedFrom quote fuel)

/-- Reads a quoted scalar after its opening quote. -/
def readQuoted (quote : Char) : Reader (List Char) := do quotedFrom quote ((← get).length + 1)

end LogSift.Yaml
