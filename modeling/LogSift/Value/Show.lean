import LogSift.Text.Quoted
import LogSift.Number.Integer
import LogSift.Number.Shortest
import LogSift.Value.Basic

/-!
# Values in messages

* `Value.shown`: a value as it stands in a message. A text is itself, a date reads like a date;
  everything inside a collection is shown by `Value.quoted`.
* `Value.quoted`: a value with quotes around texts, so that different values look different.
* `Value.kind`: the word for the kind of a value; `Value.fullKind` is the longer word in messages
  about operations that a kind does not have.
* `Value.isShowable`: whether the integers in a value are short enough to be shown.
-/

namespace LogSift

/-- An offset from universal time inside another value. -/
def offsetQuoted (seconds : Int) : String :=
  if seconds = 0 then "datetime.timezone.utc"
  else "datetime.timezone(" ++ durationText seconds ++ ")"

namespace Date

/-- A date inside another value. -/
def quoted (d : Date) : String :=
  "datetime.date(" ++ toString d.year ++ ", " ++ toString d.month ++ ", " ++ toString d.day ++ ")"

end Date

namespace Timestamp

/-- A timestamp inside another value. Seconds and microseconds are left out when they are zero. -/
def quoted (t : Timestamp) : String :=
  let clock :=
    if t.microsecond ≠ 0 then [t.second, t.microsecond]
    else if t.second ≠ 0 then [t.second] else []
  let parts := [t.date.year, t.date.month, t.date.day, t.hour, t.minute] ++ clock
  let zone := match t.offset with
    | none => ""
    | some o => ", tzinfo=" ++ offsetQuoted o
  "datetime.datetime(" ++ String.intercalate ", " (parts.map toString) ++ zone ++ ")"

end Timestamp

namespace Scalar

/-- A scalar inside another value. -/
def quoted : Scalar → String
  | .null => "None"
  | .bool b => if b then "True" else "False"
  | .int n => toString n
  | .float x => x.text
  | .text s => Text.quote s
  | .octets bs => Text.quoteOctets bs
  | .date d => d.quoted
  | .timestamp t => t.quoted

/-- A scalar in a message. -/
def shown : Scalar → String
  | .text s => s
  | .date d => String.ofList d.chars
  | .timestamp t => String.ofList t.chars
  | s => s.quoted

/-- Whether a scalar can be shown. -/
def isShowable : Scalar → Bool
  | .int n => Number.isShowable n
  | _ => true

/-- The word for the kind of a scalar. -/
def kind : Scalar → String
  | .null => "NoneType"
  | .bool _ => "bool"
  | .int _ => "int"
  | .float _ => "float"
  | .text _ => "str"
  | .octets _ => "bytes"
  | .date _ => "date"
  | .timestamp _ => "datetime"

/-- The longer word for the kind of a scalar. -/
def fullKind : Scalar → String
  | .date _ => "datetime.date"
  | .timestamp _ => "datetime.datetime"
  | s => s.kind

end Scalar

namespace Value

/-- Texts between brackets, with commas. -/
def enclose (opening closing : String) (parts : List String) : String :=
  opening ++ String.intercalate ", " parts ++ closing

mutual

/-- A value inside another one. -/
def quoted : Value → String
  | .scalar s => s.quoted
  | .list items => enclose "[" "]" (quotedItems items)
  | .pair a b => enclose "(" ")" [quoted a, quoted b]
  | .map entries => enclose "\x7b" "\x7d" (quotedEntries entries)
  | .set members =>
    if members.isEmpty then "set()" else enclose "\x7b" "\x7d" (members.map Scalar.quoted)
  | .enclosing isMap => if isMap then "\x7b...\x7d" else "[...]"

/-- The items of a list. -/
def quotedItems : List Value → List String
  | [] => []
  | v :: rest => quoted v :: quotedItems rest

/-- The entries of a map. -/
def quotedEntries : List (Scalar × Value) → List String
  | [] => []
  | (k, v) :: rest => (k.quoted ++ ": " ++ quoted v) :: quotedEntries rest

end

/-- A value in a message. -/
def shown : Value → String
  | .scalar s => s.shown
  | v => v.quoted

mutual

/-- Whether a value can be shown. -/
def isShowable : Value → Bool
  | .scalar s => s.isShowable
  | .list items => itemsShowable items
  | .pair a b => a.isShowable && b.isShowable
  | .map entries => entriesShowable entries
  | .set members => members.all Scalar.isShowable
  | .enclosing _ => true

/-- Whether the items of a list can be shown. -/
def itemsShowable : List Value → Bool
  | [] => true
  | v :: rest => v.isShowable && itemsShowable rest

/-- Whether the entries of a map can be shown. -/
def entriesShowable : List (Scalar × Value) → Bool
  | [] => true
  | (k, v) :: rest => k.isShowable && v.isShowable && entriesShowable rest

end

/-- The word for the kind of a value. -/
def kind : Value → String
  | .scalar s => s.kind
  | .list _ => "list"
  | .pair _ _ => "tuple"
  | .map _ => "dict"
  | .set _ => "set"
  | .enclosing isMap => if isMap then "dict" else "list"

/-- The longer word for the kind of a value. -/
def fullKind : Value → String
  | .scalar s => s.fullKind
  | v => v.kind

end Value

end LogSift
