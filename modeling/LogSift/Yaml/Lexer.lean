import LogSift.Yaml.Property
import LogSift.Yaml.Scalar.Plain
import LogSift.Yaml.Scalar.Quoted
import LogSift.Yaml.Scalar.Block

/-!
# Cutting documents into tokens

`tokens` cuts a text into tokens. Outside of brackets the layout counts: a collection of lines
begins where its first sign stands further to the right than the collection around it, and ends
before the first token that stands further to the left.

A key without a sign of its own is known as a key only when the colon after it is met. Until then
its place among the tokens is kept as pending, one for every level of brackets. It has to be
followed by the colon on the same line and within `keyLength` characters.
-/

namespace LogSift.Yaml

/-! ## Places -/

/-- A place in a text: the text from there on, with the number of lines, of columns and of
characters before it. -/
structure Place where
  rest : List Char
  line : Nat
  column : Nat
  index : Nat

namespace Place

/-- The place after a number of characters. -/
def advance (p : Place) : Nat → Place
  | 0 => p
  | count + 1 =>
    match p.rest with
    | [] => p
    | c :: rest =>
      let next : Place :=
        if isBreak c then ⟨rest, p.line + 1, 0, p.index + 1⟩
        else ⟨rest, p.line, if c = byteOrderMark then p.column else p.column + 1, p.index + 1⟩
      next.advance count

/-- The place where a later part of the text begins. -/
def moveTo (p : Place) (rest : List Char) : Place := p.advance (p.rest.length - rest.length)

end Place

/-! ## The state of cutting -/

/-- The number of characters within which a key without sign is followed by its colon. -/
def keyLength : Nat := 1024

/-- A token that may turn out to begin a key. -/
structure PendingKey where
  /-- The number of tokens before it. -/
  index : Nat
  /-- Whether it can be nothing but a key. -/
  required : Bool
  place : Place

/-- The tokens so far and what is known about the layout. -/
structure Lexer where
  place : Place
  tokens : Array Token
  /-- The columns of the collections of lines that are open, innermost first. -/
  columns : List Nat
  /-- Whether a key without sign may begin here. -/
  keyAllowed : Bool
  /-- The pending key at this level of brackets. -/
  pending : Option PendingKey
  /-- The pending keys around the open brackets, innermost first. -/
  outer : List (Option PendingKey)

namespace Lexer

/-- The beginning of a text. A mark of byte order is left out. -/
def start (text : List Char) : Lexer :=
  let place : Place := ⟨text, 0, 0, 0⟩
  { place := if text.head? = some byteOrderMark then place.advance 1 else place
    tokens := #[], columns := [], keyAllowed := true, pending := none, outer := [] }

/-- Whether a bracket is open. -/
def inBrackets (x : Lexer) : Bool := !x.outer.isEmpty

/-- The least column of the lines inside the innermost collection of lines. -/
def margin (x : Lexer) : Nat := match x.columns with
  | [] => 0
  | column :: _ => column + 1

/-- Adds a token. -/
def add (x : Lexer) (t : Token) : Lexer := { x with tokens := x.tokens.push t }

/-- Goes on to a later part of the text. -/
def moveTo (x : Lexer) (rest : List Char) : Lexer := { x with place := x.place.moveTo rest }

/-- Adds a token that is a number of characters long. -/
def addSign (x : Lexer) (length : Nat) (t : Token) : Lexer :=
  { x.add t with place := x.place.advance length }

/-! ### Layout -/

/-- Ends the collections of lines whose column is beyond a number of columns. -/
def closeColumns (limit : Nat) : List Nat → Array Token → List Nat × Array Token
  | [], tokens => ([], tokens)
  | column :: columns, tokens =>
    if limit ≤ column then closeColumns limit columns (tokens.push .linesEnd)
    else (column :: columns, tokens)

/-- Ends the collections of lines whose column is not left of a limit. -/
def unwind (x : Lexer) (limit : Nat) : Lexer :=
  if x.inBrackets then x
  else
    let (columns, tokens) := closeColumns limit x.columns x.tokens
    { x with columns, tokens }

/-- Begins a collection of lines at a column if it is right of the one around it. Its token comes
after a number of the tokens. -/
def openAt (x : Lexer) (column index : Nat) (t : Token) : Lexer :=
  if x.inBrackets || column < x.margin then x
  else { x with columns := column :: x.columns, tokens := x.tokens.insertIdxIfInBounds index t }

/-- Begins a collection of lines here. -/
def openHere (x : Lexer) (t : Token) : Lexer := x.openAt x.place.column x.tokens.size t

/-! ### Pending keys -/

/-- Whether a pending key can no longer be followed by its colon. -/
def isStale (x : Lexer) (k : PendingKey) : Bool :=
  k.place.line != x.place.line || keyLength < x.place.index - k.place.index

/-- Gives up a pending key if it is stale; one that has to be a key is missed. -/
def dropStale (x : Lexer) (pending : Option PendingKey) : Except Fault (Option PendingKey) :=
  match pending with
  | none => .ok none
  | some k =>
    if x.isStale k then if k.required then .error .malformed else .ok none else .ok (some k)

/-- Gives up every pending key that is stale. -/
def dropAllStale (x : Lexer) : Except Fault Lexer := do
  let pending ← x.dropStale x.pending
  let outer ← x.outer.mapM x.dropStale
  return { x with pending, outer }

/-- Gives up the pending key. -/
def dropPending (x : Lexer) : Except Fault Lexer :=
  match x.pending with
  | some ⟨_, true, _⟩ => .error .malformed
  | _ => .ok { x with pending := none }

/-- Takes the next token for a possible key. -/
def savePending (x : Lexer) : Except Fault Lexer := do
  if x.keyAllowed then
    let x ← x.dropPending
    let required := !x.inBrackets && x.columns.head? = some x.place.column
    return { x with pending := some ⟨x.tokens.size, required, x.place⟩ }
  else return x

/-! ### Kinds of tokens -/

/-- Skips what does not count: spaces, comments and line breaks. The first argument bounds the
number of lines. -/
def skipGap : Nat → Lexer → Lexer
  | 0, x => x
  | fuel + 1, x =>
    let rest := x.place.rest.dropWhile (· = ' ')
    let rest := match rest with
      | '#' :: _ => rest.dropWhile fun c => !isBreak c
      | _ => rest
    match rest with
    | c :: next =>
      if isBreak c then
        skipGap fuel { x.moveTo next with keyAllowed := x.keyAllowed || !x.inBrackets }
      else x.moveTo rest
    | [] => x.moveTo []

/-- Takes a token by a reader, from a number of characters on. -/
def read {α : Type} (x : Lexer) (skipped : Nat) (reader : Reader α) (token : α → Token) :
    Except Fault Lexer := do
  let (a, rest) ← reader.run (x.place.rest.drop skipped)
  return (x.add (token a)).moveTo rest

/-- A token that may begin a key and after which none begins. -/
def readKeyable {α : Type} (x : Lexer) (skipped : Nat) (reader : Reader α)
    (token : α → Token) : Except Fault Lexer := do
  let x ← x.savePending
  { x with keyAllowed := false }.read skipped reader token

/-- A scalar as a token. -/
def scalarToken (plain : Bool) (text : List Char) : Token := .scalar plain (String.ofList text)

/-- A token that stands between documents. -/
def between (x : Lexer) : Except Fault Lexer := do
  if x.inBrackets then throw .malformed
  let x ← (x.unwind 0).dropPending
  return { x with keyAllowed := false }

/-- An opening bracket. -/
def openBracket (x : Lexer) (t : Token) : Except Fault Lexer := do
  let x ← x.savePending
  return { x with keyAllowed := true, pending := none, outer := x.pending :: x.outer }.addSign 1 t

/-- A closing bracket. -/
def closeBracket (x : Lexer) (t : Token) : Except Fault Lexer :=
  match x.outer with
  | [] => .error .malformed
  | pending :: outer => .ok ({ x with keyAllowed := false, pending, outer }.addSign 1 t)

/-- A comma inside brackets. -/
def comma (x : Lexer) : Except Fault Lexer :=
  if x.inBrackets then .ok ({ x with keyAllowed := true, pending := none }.addSign 1 .comma)
  else .error .malformed

/-- A sign of the layout, which has to stand where a key may begin. -/
def layoutSign (x : Lexer) (collection sign : Token) : Except Fault Lexer := do
  if !x.inBrackets && !x.keyAllowed then throw .malformed
  let x ← (x.openHere collection).dropPending
  return { x with keyAllowed := !x.inBrackets }.addSign 1 sign

/-- The hyphen before an item. -/
def item (x : Lexer) : Except Fault Lexer :=
  if x.inBrackets then .error .malformed else x.layoutSign .linesList .item

/-- The colon before a value. A pending key turns out to be a key. -/
def value (x : Lexer) : Except Fault Lexer :=
  match x.pending with
  | some k =>
    let x := { x with tokens := x.tokens.insertIdxIfInBounds k.index .key, pending := none }
    let x := x.openAt k.place.column k.index .linesMap
    .ok ({ x with keyAllowed := false }.addSign 1 .value)
  | none => x.layoutSign .linesMap .value

/-- A block scalar. -/
def block (x : Lexer) (fold : Bool) : Except Fault Lexer := do
  let x ← { x with keyAllowed := true }.dropPending
  x.read 1 (readBlock fold x.margin) (scalarToken false)

/-- Takes the next token, of a text that begins with this character. -/
def next (x : Lexer) (c : Char) (rest : List Char) : Except Fault Lexer := do
  let s := c :: rest
  let column := x.place.column
  let counts := x.inBrackets || beginsBlank rest
  if c = '%' && column = 0 then (← x.between).read 1 readDirective .directive
  else if column = 0 && beginsSeparator s then
    return (← x.between).addSign 3 (if c = '-' then .documentStart else .documentEnd)
  else if c = '[' then x.openBracket .openList
  else if c = '\x7b' then x.openBracket .openMap
  else if c = ']' then x.closeBracket .closeList
  else if c = '\x7d' then x.closeBracket .closeMap
  else if c = ',' then x.comma
  else if c = '-' && beginsBlank rest then x.item
  else if c = '?' && counts then x.layoutSign .linesMap .key
  else if c = ':' && counts then x.value
  else if c = '*' then x.readKeyable 1 readName .alias
  else if c = '&' then x.readKeyable 1 readName .anchor
  else if c = '!' then x.readKeyable 0 readTag id
  else if c = '|' && !x.inBrackets then x.block false
  else if c = '>' && !x.inBrackets then x.block true
  else if c = '\'' || c = '"' then x.readKeyable 1 (readQuoted c) (scalarToken false)
  else if beginsPlain x.inBrackets s then
    x.readKeyable 0 (readPlain x.inBrackets x.margin) (scalarToken true)
  else throw .malformed

/-- Takes all tokens. The first argument bounds their number. -/
def run : Nat → Lexer → Except Fault (List Token)
  | 0, _ => .error .malformed
  | fuel + 1, x => do
    let x ← (skipGap (x.place.rest.length + 1) x).dropAllStale
    match x.place.rest with
    | [] =>
      let x ← (x.unwind 0).dropPending
      return x.tokens.toList
    | c :: rest => run fuel (← (x.unwind (x.place.column + 1)).next c rest)

end Lexer

/-- The tokens of a text. -/
def tokens (text : List Char) : Except Fault (List Token) :=
  Lexer.run (text.length + 1) (.start text)

end LogSift.Yaml
