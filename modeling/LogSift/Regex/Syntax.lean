/-!
# Expressions

An expression is a sequence of items. `Item.width` gives the least and the greatest number of
characters that an item can match. The widths of bodies are limited, and the limit stands for "any
number" too; a group has the width of its body, wherever a reference to it stands.
-/

namespace LogSift.Regex

/-- The switches that change how an expression reads and matches. -/
structure Flags where
  ignoreCase : Bool := false
  multiLine : Bool := false
  dotAll : Bool := false
  verbose : Bool := false
  ascii : Bool := false
  unicode : Bool := false
  template : Bool := false
  deriving DecidableEq, Repr

namespace Flags

/-- The switches that are on in one of two sets. -/
def union (a b : Flags) : Flags :=
  ⟨a.ignoreCase || b.ignoreCase, a.multiLine || b.multiLine, a.dotAll || b.dotAll,
    a.verbose || b.verbose, a.ascii || b.ascii, a.unicode || b.unicode, a.template || b.template⟩

/-- The switches that are on in the first set and not in the second. -/
def diff (a b : Flags) : Flags :=
  ⟨a.ignoreCase && !b.ignoreCase, a.multiLine && !b.multiLine, a.dotAll && !b.dotAll,
    a.verbose && !b.verbose, a.ascii && !b.ascii, a.unicode && !b.unicode,
    a.template && !b.template⟩

/-- Whether two sets have a switch in common. -/
def meets (a b : Flags) : Bool :=
  a.ignoreCase && b.ignoreCase || a.multiLine && b.multiLine || a.dotAll && b.dotAll ||
    a.verbose && b.verbose || a.ascii && b.ascii || a.unicode && b.unicode ||
    a.template && b.template

/-- Whether no switch is on. -/
def isEmpty (a : Flags) : Bool := a = {}

/-- Whether the set chooses the alphabet. -/
def choosesAlphabet (a : Flags) : Bool := a.ascii || a.unicode

/-- The flags inside a group that turns some on and some off; a choice of alphabet replaces the
one outside. -/
def inside (outer on off : Flags) : Flags :=
  let outer := if on.choosesAlphabet then { outer with ascii := false, unicode := false } else outer
  (outer.union on).diff off

end Flags

/-- A class of characters. -/
inductive Category where
  | digit
  | space
  | word
  deriving DecidableEq, Repr

/-- What a set of characters is made of. -/
inductive Member where
  | char (n : Nat)
  | range (lo hi : Nat)
  | category (c : Category) (negated : Bool)
  deriving DecidableEq, Repr

/-- A condition on a position. -/
inductive Anchor where
  /-- The beginning of the text, or of a line. -/
  | opening
  /-- The end of the text or of its last line, or of any line. -/
  | closing
  | textStart
  | textEnd
  | boundary
  | notBoundary
  deriving DecidableEq, Repr

/-- How a repetition chooses the number of rounds. -/
inductive Greed where
  /-- As many as possible, then fewer. -/
  | greedy
  /-- As few as possible, then more. -/
  | lazy
  /-- As many as possible, and no other number. -/
  | possessive
  deriving DecidableEq, Repr

/-- A part of an expression. -/
inductive Item where
  /-- A character, or any other one. -/
  | char (negated : Bool) (n : Nat)
  | any
  | set (negated : Bool) (members : List Member)
  | anchor (a : Anchor)
  /-- The text that a group has matched. -/
  | backref (group : Nat)
  | branch (alternatives : List (List Item))
  | group (number : Option Nat) (on off : Flags) (body : List Item)
  | atomic (body : List Item)
  | look (behind negated : Bool) (body : List Item)
  /-- One of two bodies, depending on whether a group has matched. -/
  | conditional (group : Nat) (yes no : List Item)
  | repetition (greed : Greed) (least : Nat) (most : Option Nat) (body : List Item)

/-- Least and greatest number of characters. -/
structure Width where
  least : Nat
  most : Nat
  deriving DecidableEq, Repr

/-- The greatest width. It stands also for any number of characters. -/
def widthLimit : Nat := 0xFFFFFFFF

namespace Width

/-- The width of two parts in sequence. -/
def plus (a b : Width) : Width := ⟨a.least + b.least, a.most + b.most⟩

/-- The width of either of two parts. -/
def either (a b : Width) : Width := ⟨min a.least b.least, max a.most b.most⟩

/-- The width within the limits; the least width stays below the greatest possible one. -/
def capped (a : Width) : Width := ⟨min a.least (widthLimit - 1), min a.most widthLimit⟩

/-- The width of a repetition. -/
def times (a : Width) (least : Nat) (most : Option Nat) : Width :=
  ⟨a.least * least, a.most * most.getD widthLimit⟩

end Width

mutual

/-- The width of an item, given the widths of the groups. -/
def Item.width (groups : Nat → Width) : Item → Width
  | .char _ _ | .any | .set _ _ => ⟨1, 1⟩
  | .anchor _ | .look _ _ _ => ⟨0, 0⟩
  | .backref n => groups n
  | .branch alternatives => (branchWidth groups alternatives).getD ⟨0, 0⟩
  | .group _ _ _ body | .atomic body => (sequenceWidth groups body).capped
  | .conditional _ yes no =>
    (sequenceWidth groups yes).capped.either (sequenceWidth groups no).capped
  | .repetition _ least most body => (sequenceWidth groups body).capped.times least most

/-- The width of a sequence. -/
def sequenceWidth (groups : Nat → Width) : List Item → Width
  | [] => ⟨0, 0⟩
  | item :: rest => (item.width groups).plus (sequenceWidth groups rest)

/-- The width of alternatives, if there are any. -/
def branchWidth (groups : Nat → Width) : List (List Item) → Option Width
  | [] => none
  | first :: rest =>
    let here := (sequenceWidth groups first).capped
    some (match branchWidth groups rest with
      | none => here
      | some others => here.either others)

end

/-- The width of a whole body. -/
def bodyWidth (groups : Nat → Width) (body : List Item) : Width :=
  (sequenceWidth groups body).capped

end LogSift.Regex
