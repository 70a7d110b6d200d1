import LogSift.Regex.Parser
import LogSift.Regex.Node

/-!
# Preparing expressions

`prepare` turns the items of an expression into a node for matching. It refuses a lookbehind whose
body has no fixed width or a very large one, and any repetition in an expression with the flag for
templates. An alternative and a repetition of one character learn which character has to follow
where this is the first thing in the sequence there.

`startTest?` is a test that the first character of a match has to pass. It is taken from the first
item of the expression when this is a character, a set or a choice between characters, none of
which has a case that does not matter. Its classes of characters are those of the whole
expression, also where the item stands in a group with an alphabet of its own.
-/

namespace LogSift.Regex

/-- A lookbehind goes back fewer characters than this. -/
def lookbehindLimit : Nat := 0x80000000

/-- The word for a repetition of a kind. -/
def Greed.operator : Greed → String
  | .greedy => "MAX_REPEAT"
  | .lazy => "MIN_REPEAT"
  | .possessive => "POSSESSIVE_REPEAT"

/-- The condition of an anchor under flags. -/
def Anchor.spot (f : Flags) : Anchor → Spot
  | .opening => if f.multiLine then .lineStart else .textStart
  | .closing => if f.multiLine then .lineEnd else .lastEnd
  | .textStart => .textStart
  | .textEnd => .textEnd
  | .boundary => .boundary f.ascii false
  | .notBoundary => .boundary f.ascii true

/-- A node after another. -/
def Node.andThen : Node → Node → Node
  | first, .empty => first
  | first, second => .seq first second

/-- How far back a lookaround goes. -/
def lookback (behind : Bool) (width : Width) : Except Cause Nat :=
  if !behind then .ok 0
  else if width.least ≠ width.most then .error .lookbehindVaries
  else .ok width.least

/-! ## Beginnings -/

mutual

/-- The first item of an item that is not a group without number, with the flags there. -/
def Item.opening? (f : Flags) : Item → Option (Flags × Item)
  | .group none on off body => opening? (f.inside on off) body
  | item => some (f, item)

/-- The first item of a sequence that is not a group without number, with the flags there. -/
def opening? (f : Flags) : List Item → Option (Flags × Item)
  | [] => none
  | item :: rest => match item.opening? f with
    | some found => some found
    | none => opening? f rest

end

/-- The test of a character whose case matters, or which has none. -/
def plainChar? (f : Flags) : Item → Option CharTest
  | .char false n => if (Fold.ofFlags f).isCased n then none else some (.ofChar f false n)
  | _ => none

/-- The test of a character or a set of characters whose case matters, or which have none. -/
def plainTest? (f : Flags) : Item → Option CharTest
  | .set negated members =>
    if members.any (CharTest.memberIsCased (.ofFlags f)) then none
    else some (.ofSet f negated members)
  | item => plainChar? f item

/-- The character that has to follow where a sequence follows. `ahead` is what follows the
sequence. -/
def charAhead (f : Flags) (ahead : Option CharTest) (items : List Item) : Option CharTest :=
  match opening? f items with
  | none => ahead
  | some (f, item) => plainChar? f item

/-- What the first character of an alternative has to pass. -/
def alternativeTest? (f : Flags) (items : List Item) : Option CharTest :=
  (opening? f items).bind fun (f, item) => plainTest? f item

/-- The test of an item that stands for one character. -/
def charTest? (f : Flags) : Item → Option CharTest
  | .char negated n => some (.ofChar f negated n)
  | .any => some (.ofAny f)
  | .set negated members => some (.ofSet f negated members)
  | _ => none

mutual

/-- The test of an item that stands for one character, also in a group without number. -/
def Item.unit? (f : Flags) : Item → Option CharTest
  | .group none on off body => unit? (f.inside on off) body
  | item => charTest? f item

/-- The test of a sequence of one item that stands for one character. -/
def unit? (f : Flags) : List Item → Option CharTest
  | [only] => only.unit? f
  | _ => none

end

/-! ## Nodes -/

mutual

/-- The node of an item. `ahead` is a character that has to follow, if it shows. -/
def prepareItem (groups : Nat → Width) (f : Flags) (ahead : Option CharTest) :
    Item → Except Cause Node
  | .char negated n => .ok (.test (.ofChar f negated n))
  | .any => .ok (.test (.ofAny f))
  | .set negated members => .ok (.test (.ofSet f negated members))
  | .anchor a => .ok (.spot (a.spot f))
  | .backref group => .ok (.backref group (.ofFlags f))
  | .branch alternatives => prepareBranch groups f alternatives
  | .group none on off body => prepareItems groups (f.inside on off) ahead body
  | .group (some number) on off body =>
    (prepareItems groups (f.inside on off) none body).map (.capture number)
  | .atomic body => (prepareItems groups f none body).map .atomic
  | .look behind negated body => do
    let back ← lookback behind (bodyWidth groups body)
    return .look back negated (← prepareItems groups f none body)
  | .conditional group yes no => do
    let yesNode ← prepareItems groups f (if no.isEmpty then ahead else none) yes
    return .cond group yesNode (← prepareItems groups f ahead no)
  | .repetition greed least most body => do
    if f.template then throw (.templateRepeat greed.operator)
    let node ← prepareItems groups f none body
    return match unit? f body with
      | some test => .span greed ⟨least, most, test, ahead⟩
      | none => .loop greed least most node

/-- The node of a sequence. -/
def prepareItems (groups : Nat → Width) (f : Flags) (ahead : Option CharTest) :
    List Item → Except Cause Node
  | [] => .ok .empty
  | item :: rest => do
    let first ← prepareItem groups f (charAhead f ahead rest) item
    return first.andThen (← prepareItems groups f ahead rest)

/-- The node of alternatives. -/
def prepareBranch (groups : Nat → Width) (f : Flags) : List (List Item) → Except Cause Node
  | [] => .ok .never
  | first :: rest => do
    let left ← prepareItems groups f none first
    return .alt (alternativeTest? f first) left (← prepareBranch groups f rest)

end

/-- How far an expression looks back. -/
def Node.reach : Node → Nat
  | .seq a b | .alt _ a b | .cond _ a b => max a.reach b.reach
  | .capture _ body | .atomic body | .loop _ _ _ body => body.reach
  | .look back _ body => max back body.reach
  | .empty | .never | .test _ | .spot _ | .backref _ _ | .span _ _ => 0

/-- The node of an expression. -/
def prepare (p : Parsed) : Except Error Node :=
  match prepareItems p.groupWidth p.flags none p.items with
  | .error cause => .error (.invalid cause none)
  | .ok node => if lookbehindLimit ≤ node.reach then .error .looksTooFar else .ok node

/-! ## The first character -/

/-- The character that an alternative begins with, if its case matters or it has none. -/
def firstChar? (fold : Fold) : List Item → Option Member
  | .char false n :: _ => if fold.isCased n then none else some (.char n)
  | _ => none

/-- Whether a member of a set has a case that does not matter. -/
def hasFreeCase (fold : Fold) : Member → Bool
  | .char n => fold.isCased n
  | .range lo hi => fold != .none && (basicLimit < hi || fold.meetsCased lo hi)
  | .category _ _ => false

mutual

/-- The set of characters that an item can begin with, if it shows. -/
def startMembers? (f : Flags) : Item → Option (Bool × List Member)
  | .char false n => if (Fold.ofFlags f).isCased n then none else some (false, [.char n])
  | .set negated members =>
    if members.any (hasFreeCase (.ofFlags f)) then none else some (negated, members)
  | .branch alternatives =>
    (alternatives.mapM (firstChar? (.ofFlags f))).map fun members => (false, members)
  | .group _ on off body => firstMembers? (f.inside on off) body
  | _ => none

/-- The set of characters that a sequence can begin with, if its first item shows it. -/
def firstMembers? (f : Flags) : List Item → Option (Bool × List Member)
  | [] => none
  | item :: _ => startMembers? f item

end

/-- A test that the first character of a match has to pass. -/
def startTest? (p : Parsed) : Option CharTest :=
  if (bodyWidth p.groupWidth p.items).least = 0 then none
  else (firstMembers? p.flags p.items).map fun (negated, members) =>
    ⟨.none, negated, members.map (CharTest.plainMember p.flags.ascii)⟩

end LogSift.Regex
