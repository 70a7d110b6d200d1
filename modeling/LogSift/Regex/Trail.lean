import LogSift.Regex.Cursor

/-!
# What an attempt leaves behind

The groups of an expression have two `Marks` each, where the group begins and where it ends. An
attempt to match ends in success or failure, and either way leaves a `Trail`: the place where it
stood last, and the marks. Most of what a failed attempt has left is taken back before the next
choice is tried. Two things are not:

* outside of repetitions the marks that were there before the choice keep the values that the
  failed attempt gave them (`Trail.restored`);
* a possessive repetition goes on from the place where its last round has failed.
-/

namespace LogSift.Regex

/-- Where the groups begin and end: two marks a group, up to the last one that is set. -/
abbrev Marks := List (Option Nat)

namespace Marks

/-- Sets a mark. Those before it that are not there yet are there then, without a value. -/
def put (m : Marks) (index offset : Nat) : Marks :=
  (m ++ List.replicate (index + 1 - m.length) none).set index (some offset)

/-- Marks the beginning of a group. -/
def opened (m : Marks) (group offset : Nat) : Marks := m.put (2 * (group - 1)) offset

/-- Marks the end of a group. -/
def closed (m : Marks) (group offset : Nat) : Marks := m.put (2 * (group - 1) + 1) offset

/-- The two marks of a group, if both have a value. -/
def pair? (m : Marks) (group : Nat) : Option (Nat × Nat) :=
  match m[2 * (group - 1)]?, m[2 * (group - 1) + 1]? with
  | some (some first), some (some last) => if 0 < group then some (first, last) else none
  | _, _ => none

/-- Where a group that has matched begins and ends. -/
def span? (m : Marks) (group : Nat) : Option (Nat × Nat) :=
  (m.pair? group).filter fun (first, last) => first ≤ last

end Marks

/-- What an attempt leaves behind. -/
structure Trail where
  /-- Where the attempt stood last. -/
  place : Cursor
  marks : Marks
  deriving DecidableEq, Repr

namespace Trail

/-- The trail with another place. -/
def moved (t : Trail) (c : Cursor) : Trail := { t with place := c }

/-- The trail with another list of marks. -/
def marked (t : Trail) (m : Marks) : Trail := { t with marks := m }

/-- The trail of a failure, for the next choice. Within a repetition the marks are those from
before the choice; elsewhere the marks that were not there before go away. -/
def restored (t : Trail) (repeating : Bool) (saved : Marks) : Trail :=
  t.marked (if repeating then saved else t.marks.take saved.length)

end Trail

/-- How an attempt ends. A success stands at the end of what has matched. -/
inductive Attempt where
  | success (t : Trail)
  | failure (t : Trail)
  deriving DecidableEq, Repr

namespace Attempt

/-- Tries something else after a failure. -/
@[inline] def orElse (a : Attempt) (next : Trail → Attempt) : Attempt :=
  match a with
  | .success t => .success t
  | .failure t => next t

/-- Changes what a failure leaves behind. -/
@[inline] def onFailure (a : Attempt) (f : Trail → Trail) : Attempt :=
  a.orElse fun t => .failure (f t)

end Attempt

/-- What has to match from a place. -/
abbrev Continuation := Cursor → Trail → Attempt

/-- Nothing more has to match. -/
def Continuation.stop : Continuation := fun c t => .success (t.moved c)

end LogSift.Regex
