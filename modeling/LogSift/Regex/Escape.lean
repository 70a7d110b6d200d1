import LogSift.Regex.Token
import LogSift.Unicode.Name

/-!
# Escapes and sets

What a backslash and a character stand for outside and inside sets, and how a set of characters is
read. A set of a single character is that character.
-/

namespace LogSift.Regex

open Regex.Parser

/-! ## Escapes -/

/-- Whether a character is an octal digit. -/
def isOctal (c : Char) : Bool := '0' ≤ c && c ≤ '7'

/-- Whether a character is a hexadecimal digit. -/
def isHex (c : Char) : Bool := c.isDigit || ('a' ≤ c && c ≤ 'f') || ('A' ≤ c && c ≤ 'F')

/-- The number that digits show in a base. -/
def numeral (base : Nat) (digits : List Char) : Nat :=
  digits.foldl (fun n c => n * base + (Number.digitValue? c).getD 0) 0

/-- The characters that a letter after a backslash stands for. -/
def controlEscape? : Char → Option Nat
  | 'a' => some 7
  | 'b' => some 8
  | 'f' => some 12
  | 'n' => some 10
  | 'r' => some 13
  | 't' => some 9
  | 'v' => some 11
  | '\\' => some 92
  | _ => none

/-- The classes that a letter after a backslash stands for. -/
def categoryEscape? : Char → Option Member
  | 'd' => some (.category .digit false)
  | 'D' => some (.category .digit true)
  | 's' => some (.category .space false)
  | 'S' => some (.category .space true)
  | 'w' => some (.category .word false)
  | 'W' => some (.category .word true)
  | _ => none

/-- The conditions that a letter after a backslash stands for. -/
def anchorEscape? : Char → Option Anchor
  | 'A' => some .textStart
  | 'b' => some .boundary
  | 'B' => some .notBoundary
  | 'Z' => some .textEnd
  | _ => none

/-- Takes an exact number of hexadecimal digits after a backslash and a letter. -/
def takeCode (letter : Char) (count : Nat) : Parser (List Char) := do
  let digits ← takeWhile isHex count
  if digits.length < count then
    let text := '\\' :: letter :: digits
    fail (.incompleteEscape (String.ofList text)) text.length
  return digits

/-- Refuses an escape of which all characters have been taken. -/
def failEscape {α : Type} (text : List Char) : Parser α :=
  fail (.badEscape (String.ofList text)) text.length

/-- The code of a character that is written by number or by name after a backslash and a letter,
if the letter announces one. -/
def codeEscape (letter : Char) : Parser (Option Nat) := do
  match letter with
  | 'x' => return some (numeral 16 (← takeCode 'x' 2))
  | 'u' => return some (numeral 16 (← takeCode 'u' 4))
  | 'U' =>
    let digits ← takeCode 'U' 8
    let code := numeral 16 digits
    if 0x80000000 ≤ code then stop .codeTooLarge
    if 0x10FFFF < code then failEscape ('\\' :: 'U' :: digits)
    return some code
  | 'N' =>
    unless ← accept '\x7b' do fail .missingBrace 0
    let name ← takeName '\x7d' "character name"
    match Unicode.charNamed? (String.ofList name) with
    | some code => return some code
    | none => fail (.unknownCharacter (String.ofList name)) (name.length + 4)
  | _ => return none

/-- Refuses an octal number above 255. -/
def octalCode (digits : List Char) : Parser Nat := do
  let code := numeral 8 digits
  if 0o377 < code then
    fail (.octalTooLarge (String.ofList ('\\' :: digits))) (digits.length + 1)
  return code

/-- The character that an escape of no special meaning stands for. -/
def plainEscape (c : Char) : Parser Nat := do
  if c.isAlpha then failEscape ['\\', c]
  return c.toNat

/-- What a backslash and a character stand for in a set. -/
def setEscape (c : Char) : Parser Member := do
  if let some code := controlEscape? c then return .char code
  if let some member := categoryEscape? c then return member
  if let some code ← codeEscape c then return .char code
  if isOctal c then
    return .char (← octalCode (c :: (← takeWhile isOctal 2)))
  if c.isDigit then failEscape ['\\', c]
  return .char (← plainEscape c)

/-- What a backslash and a digit other than zero stand for: a character by its octal number, which
has three digits, or a reference to a group. -/
def digitEscape (c : Char) : Parser Item := do
  let second ← takeWhile Char.isDigit 1
  let third ← match second with
    | [d] => if isOctal c && isOctal d then takeWhile isOctal 1 else pure []
    | _ => pure []
  let digits := c :: (second ++ third)
  if !third.isEmpty then return .char false (← octalCode digits)
  let group := numeral 10 digits
  let s ← get
  if group < s.nextGroup then
    if (s.closedWidth? group).isNone then fail .openGroup (digits.length + 1)
    checkBehind group
    return .backref group
  fail (.invalidGroup group) digits.length

/-- What a backslash and a character stand for outside sets. -/
def itemEscape (c : Char) : Parser Item := do
  if let some anchor := anchorEscape? c then return .anchor anchor
  if let some member := categoryEscape? c then return .set false [member]
  if let some code := controlEscape? c then return .char false code
  if let some code ← codeEscape c then return .char false code
  if c = '0' then return .char false (numeral 8 (← takeWhile isOctal 2))
  if c.isDigit then digitEscape c
  else return .char false (← plainEscape c)

/-! ## Sets -/

/-- What a token stands for in a set. -/
def setToken : Token → Parser Member
  | .plain c => return .char c.toNat
  | .escaped c => setEscape c

/-- Reads the members of a set up to the closing bracket. `start` is the position of the opening
one; the members read so far come last one first. -/
def parseMembers (start : Nat) : (fuel : Nat) → List Member → Parser (List Member)
  | 0, _ => fail .unterminatedSet 0
  | fuel + 1, members => do
    let unterminated {α : Type} : Parser α := do
      fail .unterminatedSet ((← get).position - start)
    match ← next with
    | none => unterminated
    | some this =>
      if this = .plain ']' && !members.isEmpty then return members.reverse
      let first ← setToken this
      if ← accept '-' then
        match ← next with
        | none => unterminated
        | some that =>
          if that = .plain ']' then return (.char 45 :: first :: members).reverse
          let last ← setToken that
          match first, last with
          | .char lo, .char hi =>
            if hi < lo then
              fail (.badRange this.text that.text) (this.length + 1 + that.length)
            parseMembers start fuel (.range lo hi :: members)
          | _, _ => fail (.badRange this.text that.text) (this.length + 1 + that.length)
      else parseMembers start fuel (first :: members)

/-- Every member once, at its first occurrence. -/
def distinct (members : List Member) : List Member :=
  (members.foldl (fun seen m => if seen.contains m then seen else m :: seen) []).reverse

/-- Reads a set after its opening bracket. -/
def parseSet : Parser Item := do
  let s ← get
  let negated ← accept '^'
  let members ← parseMembers (s.position - 1) (s.rest.length + 1) []
  match distinct members with
  | [.char n] => return .char negated n
  | members => return .set negated members

end LogSift.Regex
