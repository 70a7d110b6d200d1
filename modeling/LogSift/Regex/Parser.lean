import LogSift.Regex.Escape
import LogSift.Regex.Opening

/-!
# Reading expressions

`parse` reads an expression into its items. Alternatives that all begin with the same item have it
taken out in front of them, and alternatives of one character each become a set. A group without
number and flags is replaced by its items when the sequence around it is complete.
-/

namespace LogSift.Regex

open Regex.Parser

/-! ## Repetitions -/

/-- A number of repetitions. -/
def repetitionCount (digits : List Char) : Parser Nat := do
  if Number.digitLimit < digits.length then stop (.integer (.tooManyDigits digits.length))
  let n := numeral 10 digits
  if repetitionLimit ≤ n then stop .repetitionTooLarge
  return n

/-- The bounds between braces, after the opening one. Without bounds the brace stands for itself
and nothing is taken. -/
def braceBounds : Parser (Option (Nat × Option Nat)) := do
  let saved ← get
  if (← peek) = some (.plain '\x7d') then return none
  let low ← takeAll Char.isDigit
  let high ← if ← accept ',' then takeAll Char.isDigit else pure low
  unless ← accept '\x7d' do
    set saved
    return none
  let least ← if low.isEmpty then pure 0 else repetitionCount low
  let most ← if high.isEmpty then pure none else some <$> repetitionCount high
  if let some n := most then
    if n < least then fail .leastOverMost ((← get).position - saved.position)
  return some (least, most)

/-- The bounds that a repetition sign announces. -/
def repetitionBounds (sign : Char) : Parser (Option (Nat × Option Nat)) :=
  match sign with
  | '?' => return some (0, some 1)
  | '*' => return some (0, none)
  | '+' => return some (1, none)
  | _ => braceBounds

/-- The items that a repetition repeats, if the item before it can be repeated. -/
def repeatable (item : Option Item) : Except Cause (List Item) :=
  match item with
  | none | some (.anchor _) => .error .nothingToRepeat
  | some (.repetition _ _ _ _) => .error .multipleRepeat
  | some (.group none on off body) =>
    .ok (if on.isEmpty && off.isEmpty then body else [.group none on off body])
  | some item => .ok [item]

/-- Takes the sign after a repetition that says how it tries, if there is one. A second sign is
left where it is. -/
def takeGreed : Parser Greed := do
  if ← accept '?' then return .lazy
  if ← accept '+' then return .possessive
  return .greedy

/-- Puts a repetition in the place of the last of the items, which come last one first. `start` is
the position after the repetition sign. -/
def applyRepetition (start : Nat) (bounds : Nat × Option Nat) (items : List Item) :
    Parser (List Item) := do
  match repeatable items.head? with
  | .error cause => fail cause ((← get).position - start + 1)
  | .ok body => return .repetition (← takeGreed) bounds.1 bounds.2 body :: items.drop 1

/-! ## Alternatives -/

/-- Whether two items are the same character, set, anchor or reference. -/
def sameItem : Item → Item → Bool
  | .char a m, .char b n => a == b && m == n
  | .any, .any => true
  | .set a ms, .set b ns => a == b && ms == ns
  | .anchor a, .anchor b => a == b
  | .backref m, .backref n => m == n
  | _, _ => false

/-- The item that all alternatives begin with. -/
def commonItem? (alternatives : List (List Item)) : Option Item :=
  match alternatives with
  | (first :: _) :: rest =>
    if rest.all fun items => (items.head?.map fun item => sameItem item first).getD false
    then some first else none
  | _ => none

/-- Takes common items out in front of alternatives. -/
def takeCommon : (fuel : Nat) → List (List Item) → List Item × List (List Item)
  | 0, alternatives => ([], alternatives)
  | fuel + 1, alternatives =>
    match commonItem? alternatives with
    | none => ([], alternatives)
    | some item =>
      let (items, rest) := takeCommon fuel (alternatives.map (List.drop 1))
      (item :: items, rest)

/-- The members of a set that says the same as an alternative of one character. -/
def asMembers? : List Item → Option (List Member)
  | [.char false n] => some [.char n]
  | [.set false members] => some members
  | _ => none

/-- Alternatives as a sequence. -/
def joinAlternatives (alternatives : List (List Item)) : List Item :=
  match alternatives with
  | [only] => only
  | _ =>
    let (items, rest) := takeCommon ((alternatives.map List.length).foldl max 0) alternatives
    match rest.mapM asMembers? with
    | some members => items ++ [.set false (distinct members.flatten)]
    | none => items ++ [.branch rest]

/-- The items of groups without number and flags in the place of the groups. -/
def unpack (items : List Item) : List Item :=
  items.flatMap fun item => match item with
    | .group none on off body => if on.isEmpty && off.isEmpty then body else [item]
    | _ => [item]

/-! ## Groups and sequences -/

/-- Takes the closing parenthesis of a group that was opened at a position. -/
def takeClosing (start : Nat) : Parser Unit := do
  unless ← accept ')' do fail .unterminatedGroup ((← get).position - start)

/-- Skips a comment to the end of its line. -/
def skipLine : (fuel : Nat) → Parser Unit
  | 0 => return
  | fuel + 1 => do
    match ← next with
    | none => return
    | some (.plain '\n') => return
    | _ => skipLine fuel

/-- Runs a step inside a lookbehind. -/
def insideLookbehind (behind : Bool) (body : Parser (List Item)) : Parser (List Item) := do
  let outer := (← get).behind
  if behind && outer.isNone then modify fun s => { s with behind := some s.nextGroup }
  let items ← body
  if behind && outer.isNone then modify fun s => { s with behind := none }
  return items

mutual

/-- Reads alternatives. `top` is true outside of all groups. -/
def parseAlternatives : (fuel : Nat) → (verbose top : Bool) → Parser (List Item)
  | 0, _, _ => fail .unterminatedGroup 0
  | fuel + 1, verbose, top => do
    return joinAlternatives (← parseBranches fuel verbose top true)

/-- Reads sequences between bars. -/
def parseBranches : (fuel : Nat) → (verbose top first : Bool) → Parser (List (List Item))
  | 0, _, _, _ => fail .unterminatedGroup 0
  | fuel + 1, verbose, top, first => do
    let items ← parseSequence fuel verbose (top && first) []
    if ← accept '|' then
      let flags := (← get).flags
      let verbose := if top then flags.verbose else verbose
      return items :: (← parseBranches fuel verbose top false)
    else return [items]

/-- Reads items up to a bar, a closing parenthesis or the end. The items read so far come last one
first; `first` is true where flags for the whole expression may stand. -/
def parseSequence : (fuel : Nat) → (verbose first : Bool) → List Item → Parser (List Item)
  | 0, _, _, _ => fail .unterminatedGroup 0
  | fuel + 1, verbose, first, items => do
    let ended : Parser (List Item) := return unpack items.reverse
    match ← peek with
    | none => ended
    | some t =>
      if t = .plain '|' || t = .plain ')' then ended
      else
        skip t.length
        match t with
        | .escaped c => parseSequence fuel verbose first ((← itemEscape c) :: items)
        | .plain c =>
          if verbose && Unicode.isAsciiSpace c then parseSequence fuel verbose first items
          else if verbose && c = '#' then
            skipLine (← get).rest.length
            parseSequence fuel verbose first items
          else match c with
            | '[' => parseSequence fuel verbose first ((← parseSet) :: items)
            | '.' => parseSequence fuel verbose first (.any :: items)
            | '^' => parseSequence fuel verbose first (.anchor .opening :: items)
            | '$' => parseSequence fuel verbose first (.anchor .closing :: items)
            | '(' => parseGroup fuel verbose first items
            | _ =>
              if c = '*' || c = '+' || c = '?' || c = '\x7b' then
                let start := (← get).position
                match ← repetitionBounds c with
                | none => parseSequence fuel verbose first (.char false c.toNat :: items)
                | some bounds =>
                  parseSequence fuel verbose first (← applyRepetition start bounds items)
              else parseSequence fuel verbose first (.char false c.toNat :: items)

/-- Reads a group after its opening parenthesis, and goes on with the sequence. -/
def parseGroup : (fuel : Nat) → (verbose first : Bool) → List Item → Parser (List Item)
  | 0, _, _, _ => fail .unterminatedGroup 0
  | fuel + 1, verbose, first, items => do
    let start := (← get).position - 1
    match ← parseOpening start with
    | .comment => parseSequence fuel verbose first items
    | .item item => parseSequence fuel verbose first (item :: items)
    | .flags =>
      if !first || !items.isEmpty then fail .misplacedFlags ((← get).position - start)
      parseSequence fuel (← get).flags.verbose first items
    | .look behind negated =>
      let body ← insideLookbehind behind (parseAlternatives fuel verbose false)
      takeClosing start
      parseSequence fuel verbose first (.look behind negated body :: items)
    | .condition group =>
      let yes ← parseSequence fuel verbose false []
      let no ← if ← accept '|' then
          let no ← parseSequence fuel verbose false []
          if (← peek) = some (.plain '|') then fail .thirdBranch 0
          pure no
        else pure []
      takeClosing start
      parseSequence fuel verbose first (.conditional group yes no :: items)
    | .atomic =>
      let body ← parseAlternatives fuel verbose false
      takeClosing start
      parseSequence fuel verbose first (.atomic body :: items)
    | .plain on off =>
      let body ← parseAlternatives fuel ((verbose || on.verbose) && !off.verbose) false
      takeClosing start
      parseSequence fuel verbose first (.group none on off body :: items)
    | .capture name =>
      let number ← openGroup name
      let body ← parseAlternatives fuel verbose false
      takeClosing start
      closeGroup number body
      parseSequence fuel verbose first (.group (some number) {} {} body :: items)

end

/-! ## Whole expressions -/

/-- An expression that has been read. -/
structure Parsed where
  items : List Item
  /-- The flags for the whole expression. -/
  flags : Flags
  /-- The widths of the groups, first group first. -/
  widths : List Width

/-- The width of a group. -/
def Parsed.groupWidth (p : Parsed) (group : Nat) : Width :=
  if group = 0 then ⟨0, 0⟩ else p.widths.getD (group - 1) ⟨0, 0⟩

/-- Reads a whole expression. -/
def parseWhole : Parser Parsed := do
  skip 0
  let items ← parseAlternatives (4 * (← get).rest.length + 8) false true
  let s ← get
  if s.flags.ascii && s.flags.unicode then stop .twoAlphabets
  if !s.rest.isEmpty then fail .unbalanced 0
  match s.conditions.find? fun (group, _) => s.nextGroup ≤ group with
  | some (group, position) => throw (.inr (.invalidGroup group, position))
  | none => return ⟨items, s.flags, s.widths.map fun w => w.getD ⟨0, 0⟩⟩

/-- Reads an expression. -/
def parse (expression : List Char) : Except Error Parsed :=
  match parseWhole.run ⟨expression, 0, {}, [], [], none, []⟩ with
  | .ok (parsed, _) => .ok parsed
  | .error (.inl error) => .error error
  | .error (.inr (cause, position)) =>
    .error (.invalid cause (some (Place.of expression position)))

end LogSift.Regex
