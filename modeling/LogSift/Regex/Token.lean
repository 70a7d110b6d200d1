import LogSift.Regex.Syntax
import LogSift.Regex.Error
import LogSift.Unicode.Identifier

/-!
# Tokens of expressions

Reading goes by tokens: a token is one character, or a backslash with the character after it.
A backslash at the end of the expression is refused as soon as reading comes up to it. The state of
reading is the text that is left, and the groups and flags that have been met.
-/

namespace LogSift.Regex

/-- The number of repetitions that stands for "any number" and cannot be written. -/
def repetitionLimit : Nat := 4294967295

/-- The numbers of groups stay below this one. -/
def groupLimit : Nat := 1073741823

/-- One character, or a backslash with a character. -/
inductive Token where
  | plain (c : Char)
  | escaped (c : Char)
  deriving DecidableEq, Repr

namespace Token

/-- The characters of a token. -/
def chars : Token → List Char
  | .plain c => [c]
  | .escaped c => ['\\', c]

/-- The token as it is written. -/
def text (t : Token) : String := String.ofList t.chars

/-- The number of characters of a token. -/
def length (t : Token) : Nat := t.chars.length

end Token

/-- What reading knows: the text that is left and the groups and flags so far. -/
structure State where
  rest : List Char
  position : Nat
  flags : Flags
  /-- The names of groups. -/
  names : List (String × Nat)
  /-- The widths of the groups, first group first; an open group has none. -/
  widths : List (Option Width)
  /-- The number of groups before the outermost lookbehind that is open. -/
  behind : Option Nat
  /-- The groups that conditions name by number, with the position of the first such condition. -/
  conditions : List (Nat × Nat)

/-- A reading step. -/
abbrev Parser := StateT State (Except (Error ⊕ (Cause × Nat)))

namespace Parser

/-- Refuses the expression at a number of characters before the next token. -/
def fail {α : Type} (cause : Cause) (back : Nat) : Parser α := do
  throw (.inr (cause, (← get).position - back))

/-- Gives up for a reason that has no position. -/
def stop {α : Type} (error : Error) : Parser α := throw (.inl error)

/-- The next token. -/
def peek : Parser (Option Token) := do
  match (← get).rest with
  | [] => return none
  | '\\' :: c :: _ => return some (.escaped c)
  | c :: _ => return some (.plain c)

/-- Leaves a number of characters behind. -/
def skip (count : Nat) : Parser Unit := do
  let s ← get
  let rest := s.rest.drop count
  let position := s.position + count
  if rest = ['\\'] then throw (.inr (.escapeAtEnd, position))
  set { s with rest, position }

/-- Takes the next token. -/
def next : Parser (Option Token) := do
  match ← peek with
  | none => return none
  | some t =>
    skip t.length
    return some t

/-- Takes the next token if it is this character. -/
def accept (c : Char) : Parser Bool := do
  if (← peek) = some (.plain c) then
    skip 1
    return true
  else return false

/-- Takes up to a number of characters of a class. -/
def takeWhile (p : Char → Bool) : Nat → Parser (List Char)
  | 0 => return []
  | count + 1 => do
    match ← peek with
    | some (.plain c) =>
      if p c then
        skip 1
        return c :: (← takeWhile p count)
      else return []
    | _ => return []

/-- Takes every character of a class that comes next. -/
def takeAll (p : Char → Bool) : Parser (List Char) := do
  takeWhile p (← get).rest.length

/-- Takes tokens up to a closing character, which is taken too. -/
def takeUntil (closing : Char) (what : String) : (fuel : Nat) → List Char → Parser (List Char)
  | 0, _ => fail (.missingName what) 0
  | fuel + 1, taken => do
    match ← next with
    | none =>
      if taken.isEmpty then fail (.missingName what) 0
      else fail (.unterminatedName closing) taken.length
    | some t =>
      if t = .plain closing then
        if taken.isEmpty then fail (.missingName what) 1 else return taken
      else takeUntil closing what fuel (taken ++ t.chars)

/-- Takes a name up to a closing character. -/
def takeName (closing : Char) (what : String) : Parser (List Char) := do
  takeUntil closing what ((← get).rest.length + 1) []

end Parser

open Regex.Parser

/-! ## Groups -/

/-- The number that the next group gets. -/
def State.nextGroup (s : State) : Nat := s.widths.length + 1

/-- The width of a group that is complete. -/
def State.closedWidth? (s : State) (group : Nat) : Option Width :=
  if group = 0 then none else (s.widths[group - 1]?).join

/-- The widths of groups. -/
def State.groupWidth (s : State) (group : Nat) : Width := (s.closedWidth? group).getD ⟨0, 0⟩

/-- Opens a group. -/
def openGroup (name : Option (List Char)) : Parser Nat := do
  let s ← get
  let number := s.nextGroup
  match name with
  | none => set { s with widths := s.widths ++ [none] }
  | some cs =>
    let text := String.ofList cs
    match s.names.lookup text with
    | some former => fail (.nameInUse text number former) (cs.length + 1)
    | none => set { s with widths := s.widths ++ [none], names := (text, number) :: s.names }
  return number

/-- Closes a group with its body. -/
def closeGroup (number : Nat) (body : List Item) : Parser Unit :=
  modify fun s =>
    { s with widths := s.widths.set (number - 1) (some (bodyWidth s.groupWidth body)) }

/-- Refuses a reference from a lookbehind to a group that is open or begins inside of it. -/
def checkBehind (group : Nat) : Parser Unit := do
  let s ← get
  match s.behind with
  | none => return
  | some before =>
    if (s.closedWidth? group).isNone then fail .openGroup 0
    if before ≤ group then fail .lookbehindGroup 0

/-- Refuses a name that is no identifier. -/
def checkName (name : List Char) : Parser Unit := do
  unless Unicode.isIdentifier name do
    fail (.badGroupName (String.ofList name)) (name.length + 1)

end LogSift.Regex
