import LogSift.Text.Trim
import LogSift.Regex.Basic
import LogSift.Matcher.Error

/-!
# Fields of a line

`extract` applies an expression to a line and reads the fields of a record from its groups. Each
field has to name a group by its number, from one up to the number of groups, and the group must
have matched some text; the field is this text without blanks around it. The first field that
fails decides the error.

A record without severity, or with an empty one, gets the severity of the matcher if there is one.
-/

namespace LogSift.Matcher

/-- The fields of a finding. -/
abbrev Record := Entries Value

/-- The text that a group number stands for in a match. -/
def capture? (groups : Nat) (m : Regex.Match) (n : Int) : Option (List Char) :=
  if 0 < n ∧ n ≤ groups then m.group? n.toNat else none

/-- Refuses a group, unless the message about it cannot be shown. -/
def refuseGroup (group : Value) (name : Scalar) : Error :=
  if group.isShowable && name.isShowable then .noGroup group name else .integer .tooLong

/-- The value of a field. -/
def fieldValue (groups : Nat) (m : Regex.Match) (name : Scalar) (group : Value) :
    Except Error Value :=
  match group with
  | .int n =>
    if n = 0 then .error .groupZero
    else match capture? groups m n with
      | some (c :: cs) => .ok (.text (String.ofList (Text.trim (c :: cs))))
      | _ => .error (refuseGroup group name)
  | _ => .error (refuseGroup group name)

/-- The values of fields, in order. -/
def fieldValues (groups : Nat) (m : Regex.Match) : Entries Value → Except Error Record
  | [] => .ok []
  | (name, group) :: rest => do
    let v ← fieldValue groups m name group
    return (name, v) :: (← fieldValues groups m rest)

/-- The record with the severity of the matcher, unless it has one of its own. -/
def withSeverity (severity : Value) (record : Record) : Record :=
  let own := ((Entries.field? "severity" record).map Value.isTrue).getD false
  match severity with
  | .null => record
  | v => if own then record else record.set (.text "severity") v

/-- The record of a line, if the expression matches it. -/
def extract (regex : Regex) (line : List Char) (fields : Entries Value) (severity : Value) :
    Except Error (Option Record) :=
  match regex.search line with
  | none => .ok none
  | some m => do
    unless m.isSound regex.groupCount do throw .brokenMatch
    return some (withSeverity severity (← fieldValues regex.groupCount m fields))

end LogSift.Matcher
