import LogSift.Regex.Repeat

/-!
# Matching

A `Node` is an expression ready for matching. `Node.run` matches it at a place in a text and goes
on with what has to match after it; the first way that succeeds counts. Where there is a choice the
left alternative and the preferred number of repetitions come first. What a failed choice leaves
behind is the matter of `Trail`.
-/

namespace LogSift.Regex

/-- A condition on a place. -/
inductive Spot where
  | textStart
  | lineStart
  | textEnd
  | lineEnd
  /-- The end of the text, or just before a line feed that ends it. -/
  | lastEnd
  | boundary (ascii negated : Bool)
  deriving DecidableEq, Repr

/-- An expression ready for matching. -/
inductive Node where
  | empty
  | never
  | test (t : CharTest)
  | spot (s : Spot)
  | seq (first second : Node)
  /-- Two alternatives. The left one is passed over where the next character does not pass a test
  that it begins with. -/
  | alt (ahead : Option CharTest) (left right : Node)
  | capture (group : Nat) (body : Node)
  | backref (group : Nat) (fold : Fold)
  | cond (group : Nat) (yes no : Node)
  /-- A body that has to match, or must not match, from some characters back. -/
  | look (back : Nat) (negated : Bool) (body : Node)
  | atomic (body : Node)
  | loop (greed : Greed) (least : Nat) (most : Option Nat) (body : Node)
  | span (greed : Greed) (s : Span)
  deriving DecidableEq, Repr

/-- Whether a word character stands at the beginning of a list. -/
def wordAhead (ascii : Bool) : List Char → Bool
  | [] => false
  | c :: _ => Category.holds .word ascii c

/-- Whether a condition holds at a place. At a boundary a word begins or ends; an empty text has
no boundary and no place that is none. -/
def Spot.holds (s : Spot) (c : Cursor) : Bool :=
  match s with
  | .textStart => c.before.isEmpty
  | .lineStart => c.before.head?.all (· == '\n')
  | .textEnd => c.after.isEmpty
  | .lineEnd => c.after.head?.all (· == '\n')
  | .lastEnd => c.after.isEmpty || c.after == ['\n']
  | .boundary ascii negated =>
    if c.before.isEmpty && c.after.isEmpty then false
    else (wordAhead ascii c.before != wordAhead ascii c.after) != negated

/-- The place behind a given text, if this is what follows. -/
def matchText (fold : Fold) : (expected : List Char) → Cursor → Option Cursor
  | [], c => some c
  | x :: expected, c => match c.after with
    | [] => none
    | y :: after =>
      if fold.apply x.toNat = fold.apply y.toNat then
        matchText fold expected ⟨y :: c.before, after, c.offset + 1⟩
      else none

/-- Matches a node at a place and goes on. `repeating` is whether the node is within the body of a
repetition. -/
def Node.run : Node → (repeating : Bool) → Cursor → Trail → Continuation → Attempt
  | .empty, _, c, t, k => k c t
  | .never, _, _, t, _ => .failure t
  | .test x, _, c, t, k => match c.after with
    | [] => .failure t
    | y :: after => if x.holds y then k ⟨y :: c.before, after, c.offset + 1⟩ t else .failure t
  | .spot s, _, c, t, k => if s.holds c then k c t else .failure t
  | .seq first second, r, c, t, k => first.run r c t fun c t => second.run r c t k
  | .alt ahead left right, r, c, t, k =>
    if ahead.all c.sees then
      (left.run r c (t.moved c) k).orElse fun f => right.run r c (f.restored r t.marks) k
    else right.run r c t k
  | .capture group body, r, c, t, k =>
    body.run r c (t.marked (t.marks.opened group c.offset)) fun d t =>
      k d (t.marked (t.marks.closed group d.offset))
  | .backref group fold, _, c, t, k => match t.marks.span? group with
    | none => .failure t
    | some (first, last) => match matchText fold (c.slice first last) c with
      | none => .failure t
      | some d => k d t
  | .cond group yes no, r, c, t, k =>
    if (t.marks.span? group).isSome then yes.run r c t k else no.run r c t k
  | .look back negated body, r, c, t, k => match c.back back with
    | none => if negated then k c t else .failure t
    | some d => match body.run r d (t.moved d) .stop with
      | .success f => if negated then .failure f else k c f
      | .failure f => if negated then k c (f.restored r t.marks) else .failure f
  | .atomic body, r, c, t, k => match body.run r c (t.moved c) .stop with
    | .success t => k t.place t
    | .failure f => .failure (f.moved c)
  | .loop greed least most body, r, c, t, k =>
    runLoop (fun r c t k => body.run r c t k) greed least most r c t k
  | .span greed s, r, c, t, k => s.run greed r c t k

/-- The match of a node at a place. -/
def Node.matchAt? (n : Node) (c : Cursor) : Option Trail :=
  match n.run false c ⟨c, []⟩ .stop with
  | .success t => some t
  | .failure _ => none

end LogSift.Regex
