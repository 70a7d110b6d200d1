import LogSift.Regex.CharTest
import LogSift.Regex.Trail

/-!
# Repetitions

A `Span` repeats a test of one character; the loops repeat any body. A round of a loop that begins
where the latest optional round began is not tried, so a loop ends also when its rounds match no
text.

Each kind of repetition tries the numbers of rounds in an order of its own: from the most down,
from the least up, or only the most.
-/

namespace LogSift.Regex

/-! ## One character -/

/-- A repetition of one character. -/
structure Span where
  least : Nat
  most : Option Nat
  test : CharTest
  /-- A test that the character after the repetition has to pass, where the expression shows it. -/
  ahead : Option CharTest
  deriving DecidableEq, Repr

namespace Span

/-- The trail after characters have been counted up to a place. Only a set for which case does not
matter takes a step for each of them. -/
def counted (s : Span) (c : Cursor) (t : Trail) : Trail :=
  if s.test.isFoldedSet then t.moved c else t

/-- Goes on behind the repetition, if that can begin at a place. -/
def goOn (s : Span) (repeating : Bool) (saved : Marks) (k : Continuation) (c : Cursor) (t : Trail) :
    Attempt :=
  if s.ahead.all c.sees then (k c (t.moved c)).onFailure (·.restored repeating saved)
  else .failure t

/-- Goes on from a place, or else from one of a number of places before it, the nearest first. -/
def downFrom (s : Span) (repeating : Bool) (saved : Marks) (k : Continuation) :
    (spare : Nat) → Cursor → Trail → Attempt
  | 0, c, t => s.goOn repeating saved k c t
  | spare + 1, c, t =>
    (s.goOn repeating saved k c t).orElse fun t => match c.before with
      | [] => .failure t
      | x :: before => s.downFrom repeating saved k spare ⟨before, x :: c.after, c.offset - 1⟩ t

/-- Goes on from a place, or else from one of the places after it, the nearest first. At most
`spare` more characters count. -/
def upFrom (s : Span) (repeating : Bool) (saved : Marks) (k : Continuation) :
    (spare : Option Nat) → (before : List Char) → (offset : Nat) → (after : List Char) → Trail →
    Attempt
  | _, before, offset, [], t =>
    let c := ⟨before, [], offset⟩
    (k c (t.moved c)).onFailure fun t => (t.restored repeating saved).moved c
  | spare, before, offset, x :: after, t =>
    let c := ⟨before, x :: after, offset⟩
    (k c (t.moved c)).orElse fun t =>
      let t := (t.restored repeating saved).moved c
      if s.test.holds x then
        let t := s.counted ⟨x :: before, after, offset + 1⟩ t
        if spare = some 0 then .failure t
        else s.upFrom repeating saved k (spare.map (· - 1)) (x :: before) (offset + 1) after t
      else .failure t

/-- Counts characters up to a number, and goes on if there are enough. -/
def afterCount (s : Span) (most : Option Nat) (c : Cursor) (t : Trail) (k : Continuation) :
    Attempt :=
  if c.hasAhead s.least then
    let d := c.skip s.test.holds most
    let t := s.counted d (t.moved c)
    if d.offset - c.offset < s.least then .failure t else k d t
  else .failure t

/-- Matches the repetition at a place and goes on. -/
def run (s : Span) (greed : Greed) (repeating : Bool) (c : Cursor) (t : Trail) (k : Continuation) :
    Attempt :=
  match greed with
  | .greedy => s.afterCount s.most c t fun d t =>
    s.downFrom repeating t.marks k (d.offset - c.offset - s.least) d t
  | .lazy => s.afterCount (some s.least) c t fun d t =>
    s.upFrom repeating t.marks k (s.most.map (· - s.least)) d.before d.offset d.after t
  | .possessive => s.afterCount s.most c t k

end Span

/-! ## Any body -/

/-- Matches the body of a repetition at a place and goes on. -/
abbrev Round := Cursor → Trail → Continuation → Attempt

/-- Whether one more round may follow a number of rounds. -/
def mayRepeat (most : Option Nat) (count : Nat) : Bool := most.all (count < ·)

/-- More rounds than a repetition has that moves forward: all but the obligatory ones take some
text, apart from one that ends the repetition. -/
def roundLimit (least : Nat) (c : Cursor) : Nat := least + c.offset + c.after.length + 2

/-- Repeats a body, as many times as possible first. `last` is where the latest optional round
began. -/
def greedyLoop (body : Round) (least : Nat) (most : Option Nat) (k : Continuation) :
    (fuel count : Nat) → (last : Option Nat) → Cursor → Trail → Attempt
  | 0, _, _, _, t => .failure t
  | fuel + 1, count, last, c, t =>
    if count < least then
      (body c (t.moved c) fun d t =>
        greedyLoop body least most k fuel (count + 1) last d t).onFailure (·.moved c)
    else
      let round :=
        if mayRepeat most count && last != some c.offset then
          (body c (t.moved c) fun d t =>
            greedyLoop body least most k fuel (count + 1) (some c.offset) d t).onFailure
            (·.marked t.marks)
        else .failure t
      round.orElse fun t => (k c (t.moved c)).onFailure (·.moved c)

/-- Repeats a body, as few times as possible first. -/
def lazyLoop (body : Round) (least : Nat) (most : Option Nat) (repeating : Bool)
    (k : Continuation) : (fuel count : Nat) → (last : Option Nat) → Cursor → Trail → Attempt
  | 0, _, _, _, t => .failure t
  | fuel + 1, count, last, c, t =>
    if count < least then
      (body c (t.moved c) fun d t =>
        lazyLoop body least most repeating k fuel (count + 1) last d t).onFailure (·.moved c)
    else
      (k c (t.moved c)).orElse fun f =>
        let t := (f.restored repeating t.marks).moved c
        if mayRepeat most count && last != some c.offset then
          (body c t fun d t =>
            lazyLoop body least most repeating k fuel (count + 1) (some c.offset) d t).onFailure
            (·.moved c)
        else .failure t

/-- Repeats a body as many times as possible, each round as it matches first. A round begins where
the trail stands, and a round that fails leaves its place behind, which it would not in a group that
is atomic. -/
def possessiveLoop (body : Round) (least : Nat) (most : Option Nat) :
    (fuel count : Nat) → (last : Option Nat) → Trail → Attempt
  | 0, _, _, t => .failure t
  | fuel + 1, count, last, t =>
    if count < least then
      match body t.place t .stop with
      | .failure f => .failure f
      | .success d => possessiveLoop body least most fuel (count + 1) last d
    else if mayRepeat most count && last != some t.place.offset then
      match body t.place t .stop with
      | .failure f => .success (f.marked t.marks)
      | .success d => possessiveLoop body least most fuel (count + 1) (some t.place.offset) d
    else .success t

/-- Matches a repetition of a body at a place and goes on. Within the body of a possessive
repetition a choice restores marks as it does around the repetition. -/
def runLoop (body : Bool → Round) (greed : Greed) (least : Nat) (most : Option Nat)
    (repeating : Bool) (c : Cursor) (t : Trail) (k : Continuation) : Attempt :=
  let fuel := roundLimit least c
  match greed with
  | .greedy => greedyLoop (body true) least most k fuel 0 none c t
  | .lazy => lazyLoop (body true) least most repeating k fuel 0 none c t
  | .possessive =>
    match possessiveLoop (body repeating) least most fuel 0 none (t.moved c) with
    | .failure f => .failure (f.moved c)
    | .success t => k t.place t

end LogSift.Regex
