import LogSift.Regex.Token
import LogSift.Unicode.Letter

/-!
# Flags and openings of groups

`parseFlags` reads flags inside an expression, `parseOpening` what follows an opening parenthesis.
-/

namespace LogSift.Regex

open Regex.Parser

/-! ## Flags -/

/-- The flag of a letter. The flag for locales has no set. -/
def flag? : Char → Option Flags
  | 'i' => some { ignoreCase := true }
  | 'L' => some {}
  | 'm' => some { multiLine := true }
  | 's' => some { dotAll := true }
  | 'x' => some { verbose := true }
  | 'a' => some { ascii := true }
  | 't' => some { template := true }
  | 'u' => some { unicode := true }
  | _ => none

/-- Refuses a token where a flag could stand. -/
def failFlag {α : Type} (t : Token) (cause : Cause) : Parser α :=
  match t with
  | .plain c => fail (if Unicode.isLetter c then .unknownFlag else cause) 1
  | .escaped _ => fail cause 2

/-- Reads the flags that are turned on, from a first one; also the character that ends them. -/
def parseOn : (fuel : Nat) → Flags → Char → Parser (Flags × Char)
  | 0, _, _ => fail .flagsNotClosed 0
  | fuel + 1, on, c => do
    if c = 'L' then fail .localeFlag 0
    let flag := (flag? c).getD {}
    let on := on.union flag
    if flag.choosesAlphabet && on.ascii && on.unicode then fail .alphabetConflict 0
    match ← next with
    | none => fail .flagsNotClosed 0
    | some t =>
      match t with
      | .plain d =>
        if d = ')' || d = '-' || d = ':' then return (on, d)
        else if (flag? d).isSome then parseOn fuel on d
        else failFlag t .flagsNotClosed
      | .escaped _ => failFlag t .flagsNotClosed

/-- Reads the flags that are turned off, from a first one, up to the colon. -/
def parseOff : (fuel : Nat) → Flags → Char → Parser Flags
  | 0, _, _ => fail .missingColon 0
  | fuel + 1, off, c => do
    let flag := (flag? c).getD {}
    if c = 'L' || flag.choosesAlphabet then fail .turnsOffAlphabet 0
    let off := off.union flag
    match ← next with
    | none => fail .missingColon 0
    | some t =>
      match t with
      | .plain ':' => return off
      | .plain d => if (flag? d).isSome then parseOff fuel off d else failFlag t .missingColon
      | .escaped _ => failFlag t .missingColon

/-- Reads flags after the question mark, from their first character. Flags for the whole
expression give no result; flags for a group come as those on and those off. -/
def parseFlags (first : Char) : Parser (Option (Flags × Flags)) := do
  let fuel := (← get).rest.length + 1
  let (on, ending) ← if first = '-' then pure ({}, '-') else parseOn fuel {} first
  if ending = ')' then
    modify fun s => { s with flags := s.flags.union on }
    return none
  if on.template then fail .turnsOnGlobal 1
  if ending = ':' then return some (on, {})
  match ← next with
  | none => fail .missingFlag 0
  | some t =>
    match t with
    | .escaped _ => failFlag t .missingFlag
    | .plain c =>
      if (flag? c).isNone then failFlag t .missingFlag
      let off ← parseOff fuel {} c
      if off.template then fail .turnsOffGlobal 1
      if on.meets off then fail .onAndOff 1
      return some (on, off)

/-! ## Openings -/

/-- What the characters after an opening parenthesis announce. -/
inductive Opening where
  | capture (name : Option (List Char))
  | plain (on off : Flags)
  | atomic
  | look (behind negated : Bool)
  | condition (group : Nat)
  /-- An item that is complete. -/
  | item (i : Item)
  | comment
  /-- Flags for the whole expression. -/
  | flags

/-- Skips a comment up to its closing parenthesis. `start` is the position of the opening one. -/
def skipComment (start : Nat) : (fuel : Nat) → Parser Unit
  | 0 => fail .unterminatedComment 0
  | fuel + 1 => do
    if (← peek).isNone then fail .unterminatedComment ((← get).position - start)
    if (← next) = some (.plain ')') then return
    skipComment start fuel

/-- Reads the group of a condition after its parenthesis. -/
def parseCondition : Parser Nat := do
  let name ← takeName ')' "group name"
  let text := String.ofList name
  if Unicode.isIdentifier name then
    match (← get).names.lookup text with
    | none => fail (.unknownGroup text) (name.length + 1)
    | some group =>
      checkBehind group
      return group
  match Number.readInteger 10 text with
  | .error _ => fail (.badGroupName text) (name.length + 1)
  | .ok n =>
    if n < 0 then fail (.badGroupName text) (name.length + 1)
    let group := n.toNat
    if group = 0 then fail .groupNumberZero (name.length + 1)
    if groupLimit ≤ group then fail (.invalidGroup group) (name.length + 1)
    modify fun s =>
      if (s.conditions.lookup group).isSome then s
      else { s with conditions := s.conditions ++ [(group, s.position - (name.length + 1))] }
    checkBehind group
    return group

/-- Reads a reference to a group by name, after the equals sign. -/
def parseNamedReference : Parser Item := do
  let name ← takeName ')' "group name"
  checkName name
  let text := String.ofList name
  let s ← get
  match s.names.lookup text with
  | none => fail (.unknownGroup text) (name.length + 1)
  | some group =>
    if (s.closedWidth? group).isNone then fail .openGroup (name.length + 1)
    checkBehind group
    return .backref group

/-- Reads what follows `?P`. -/
def parseNamed : Parser Opening := do
  if ← accept '<' then
    let name ← takeName '>' "group name"
    checkName name
    return .capture (some name)
  if ← accept '=' then return .item (← parseNamedReference)
  match ← next with
  | none => fail .unexpectedEnd 0
  | some t => fail (.unknownExtension ("?P" ++ t.text)) (t.length + 2)

/-- Reads what follows `?<`. -/
def parseLookbehind : Parser Opening := do
  match ← next with
  | none => fail .unexpectedEnd 0
  | some (.plain '=') => return .look true false
  | some (.plain '!') => return .look true true
  | some t => fail (.unknownExtension ("?<" ++ t.text)) (t.length + 2)

/-- Reads the characters that follow an opening parenthesis at a position. -/
def parseOpening (start : Nat) : Parser Opening := do
  unless ← accept '?' do return .capture none
  match ← next with
  | none => fail .unexpectedEnd 0
  | some t =>
    match t with
    | .plain 'P' => parseNamed
    | .plain ':' => return .plain {} {}
    | .plain '#' =>
      skipComment start ((← get).rest.length + 1)
      return .comment
    | .plain '=' => return .look false false
    | .plain '!' => return .look false true
    | .plain '<' => parseLookbehind
    | .plain '(' => return .condition (← parseCondition)
    | .plain '>' => return .atomic
    | .plain c =>
      if c = '-' || (flag? c).isSome then
        match ← parseFlags c with
        | none => return .flags
        | some (on, off) => return .plain on off
      else fail (.unknownExtension ("?" ++ t.text)) (t.length + 1)
    | .escaped _ => fail (.unknownExtension ("?" ++ t.text)) (t.length + 1)

end LogSift.Regex
