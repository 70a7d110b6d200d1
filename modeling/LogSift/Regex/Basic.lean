import LogSift.Regex.Compile

/-!
# Searching

* `Regex.ofText`: an expression, read and prepared.
* `Regex.search`: the leftmost match in a text, with the parts that its groups have matched.
* `Match.group?`: the text of a group.
-/

namespace LogSift

/-- An expression that is ready for searching. -/
structure Regex where
  node : Regex.Node
  /-- The number of groups. -/
  groupCount : Nat
  /-- The least number of characters of a match. -/
  least : Nat
  /-- What the first character of a match has to pass. -/
  startTest : Option Regex.CharTest

namespace Regex

/-- Reads and prepares an expression. -/
def ofText (expression : String) : Except Error Regex := do
  let parsed ← parse expression.toList
  return {
    node := ← prepare parsed
    groupCount := parsed.widths.length
    least := (bodyWidth parsed.groupWidth parsed.items).least
    startTest := startTest? parsed }

/-- A match in a text. -/
structure Match where
  text : List Char
  first : Nat
  last : Nat
  marks : Marks
  deriving DecidableEq, Repr

/-- The text that a group has matched. -/
def Match.group? (m : Match) (group : Nat) : Option (List Char) :=
  (m.marks.span? group).map fun (first, last) => (m.text.drop first).take (last - first)

/-- What a group has matched is a part of the text. -/
theorem Match.isInfix_of_group? {m : Match} {group : Nat} {part : List Char}
    (h : m.group? group = some part) : part <:+: m.text := by
  obtain ⟨⟨first, last⟩, -, rfl⟩ := Option.map_eq_some_iff.1 h
  have htake : (m.text.drop first).take (last - first) <+: m.text.drop first :=
    List.take_prefix _ _
  exact htake.isInfix.trans (List.drop_suffix first m.text).isInfix

/-- Whether no group begins behind its end. A failed round of a possessive repetition can leave
such a group. -/
def Match.isSound (m : Match) (groups : Nat) : Bool :=
  (List.range groups).all fun i => (m.marks.pair? (i + 1)).all fun (first, last) => first ≤ last

/-- Whether a match can begin at a place. -/
def mayStart (r : Regex) (c : Cursor) : Bool := r.startTest.all c.sees

/-- The first match at one of a number of places, from a given one on. -/
def searchFrom (r : Regex) (text : List Char) : (places : Nat) → Cursor → Option Match
  | 0, _ => none
  | places + 1, c =>
    match if r.mayStart c then r.node.matchAt? c else none with
    | some t => some ⟨text, c.offset, t.place.offset, t.marks⟩
    | none => match c.after with
      | [] => none
      | x :: after => searchFrom r text places ⟨x :: c.before, after, c.offset + 1⟩

theorem text_of_searchFrom {r : Regex} {text : List Char} {places : Nat} {c : Cursor} {m : Match}
    (h : searchFrom r text places c = some m) : m.text = text := by
  induction places generalizing c with
  | zero => cases h
  | succ places ih =>
    rw [searchFrom] at h
    split at h
    · cases h
      rfl
    · split at h
      · cases h
      · exact ih h

/-- The number of places where a match is looked for: all of them where the first character is
tested, otherwise those that leave room for all but one character of a match. -/
def placeCount (r : Regex) (length : Nat) : Nat :=
  if r.startTest.isSome then length + 1 else length + 1 - (r.least - 1)

/-- The leftmost match in a text. -/
def search (r : Regex) (text : List Char) : Option Match :=
  if text.length < r.least then none
  else searchFrom r text (r.placeCount text.length) (.start text)

/-- A match is a match in the text that is searched. -/
theorem text_of_search {r : Regex} {text : List Char} {m : Match} (h : r.search text = some m) :
    m.text = text := by
  unfold search at h
  split at h
  · cases h
  · exact text_of_searchFrom h

end Regex

end LogSift
