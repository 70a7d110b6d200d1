import LogSift.Text.Trim
import LogSift.Regex.Basic
import LogSift.Matcher.Description

/-!
# Building descriptions

`Description.ofValue` builds the description of a matcher from the value of a matcher file. Every
entry of a sub-pattern apart from its expression and its loop mark is a field. A group may be
given as a text of digits.

`compile` prepares the expression of a sub-pattern. An expression that is not well-formed is
reported with the number of the sub-pattern.
-/

namespace LogSift.Matcher

/-- Prepares the expression of the sub-pattern with an index. -/
def compile (index : Nat) (regexp : String) : Except Error Regex :=
  match Regex.ofText regexp with
  | .ok r => .ok r
  | .error (.invalid cause place) => .error (.regexpInvalid index cause place)
  | .error e => .error (.expression e)

/-- Whether a text consists of digits and blanks around them. -/
def isDigits (s : String) : Bool :=
  let cs := Text.trim s.toList
  !cs.isEmpty && cs.all Unicode.isDigit

/-- A group that is given as digits is the group with that number. -/
def groupOf (v : Value) : Except Error Value :=
  match v with
  | .text s =>
    if isDigits s then
      match Number.readInteger 10 s with
      | .ok n => .ok (.int n)
      | .error fault => .error (.integer fault)
    else .ok v
  | _ => .ok v

/-- Whether a key of a sub-pattern is no field. -/
def isReserved (key : Scalar) : Bool := key.sameKey (.text "regexp") || key.sameKey (.text "loop")

/-- The fields among the entries of a sub-pattern. -/
def fieldsOf : Entries Value → Except Error (Entries Value)
  | [] => .ok []
  | (key, v) :: rest =>
    if isReserved key then fieldsOf rest
    else do
      let group ← groupOf v
      return (key, group) :: (← fieldsOf rest)

/-- Builds the sub-pattern with an index. -/
def SubPattern.ofValue (index : Nat) (v : Value) : Except Error SubPattern :=
  match v with
  | .map entries =>
    match Entries.field? "regexp" entries with
    | some (.text regexp) => do
      let _ ← compile index regexp
      let fields ← fieldsOf entries
      let loop := ((Entries.field? "loop" entries).map Value.isTrue).getD false
      return ⟨regexp, fields, loop⟩
    | _ => .error (.regexpNotText index)
  | _ => .error (.entryNotMap index)

/-- Builds sub-patterns that are numbered from an index on. -/
def subPatternsFrom (index : Nat) : List Value → Except Error (List SubPattern)
  | [] => .ok []
  | v :: rest => do
    let first ← SubPattern.ofValue index v
    return first :: (← subPatternsFrom (index + 1) rest)

/-- The items of a value, which may be the keys of a map or the characters of a text. -/
def itemsOf (v : Value) : Except Error (List Value) :=
  match v with
  | .list items => .ok items
  | .pair a b => .ok [a, b]
  | .map entries => .ok (entries.map fun e => .scalar e.1)
  | .set members => .ok (members.map .scalar)
  | .text s => .ok (s.toList.map fun c => .text c.toString)
  | .scalar (.octets bs) => .ok (bs.map fun b => .int b.toNat)
  | v => .error (.noItems v.fullKind)

/-- The entries of a map. -/
def entriesOf (v : Value) : Except Error (Entries Value) :=
  match v with
  | .map entries => .ok entries
  | v => .error (.noEntries v.fullKind)

/-- An entry that a map must have. -/
def requiredEntry (entries : Entries Value) (name : String) : Except Error Value :=
  match Entries.field? name entries with
  | some v => .ok v
  | none => .error (.missingEntry name)

/-- Builds the description of a matcher. -/
def Description.ofValue (v : Value) : Except Error Description := do
  let entries ← entriesOf v
  let owner ← requiredEntry entries "owner"
  let items ← itemsOf (← requiredEntry entries "pattern")
  let pattern ← subPatternsFrom 0 items
  return ⟨owner, pattern, (Entries.field? "severity" entries).getD .null⟩

end LogSift.Matcher
