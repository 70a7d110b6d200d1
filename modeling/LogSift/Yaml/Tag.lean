import LogSift.Regex.Basic

/-!
# Tags

A `Tag` is the type of a node. `Tag.ofName` is the type with a name; `Tag.ofPlain` is the type of a
plain scalar without a tag, which its form decides. Of several forms that fit, the first in
`plainForms` decides; a scalar of no form is a text.
-/

namespace LogSift.Yaml

/-- The type of a node. -/
inductive Tag where
  | null
  | bool
  | int
  | float
  | binary
  | timestamp
  | text
  | list
  | map
  | set
  /-- A list of keys with values that is a map with an order. -/
  | orderedMap
  /-- A list of keys with values. -/
  | pairs
  /-- The key under which other maps are merged into a map. -/
  | merge
  /-- The key under which a map holds the scalar that it stands for. -/
  | value
  /-- A type without values. -/
  | other
  deriving DecidableEq, Repr

namespace Tag

/-- What the names of the types of the notation begin with. -/
def stem : String := "tag:yaml.org,2002:"

/-- The types by their names without the stem. -/
def names : List (String × Tag) :=
  [("null", .null), ("bool", .bool), ("int", .int), ("float", .float), ("binary", .binary),
    ("timestamp", .timestamp), ("str", .text), ("seq", .list), ("map", .map), ("set", .set),
    ("omap", .orderedMap), ("pairs", .pairs), ("merge", .merge), ("value", .value)]

/-- The type with a name. -/
def ofName (name : String) : Tag :=
  ((names.find? fun (n, _) => stem ++ n = name).map (·.2)).getD .other

/-! ## Forms -/

/-- The truth values. -/
def boolForm : String :=
  "^(?:yes|Yes|YES|no|No|NO|true|True|TRUE|false|False|FALSE|on|On|ON|off|Off|OFF)$"

/-- Numbers with a point, also to base 60, infinities and what is not a number. -/
def floatForm : String :=
  "^(?:[-+]?(?:[0-9][0-9_]*)\\.[0-9_]*(?:[eE][-+][0-9]+)?" ++
  "|\\.[0-9][0-9_]*(?:[eE][-+][0-9]+)?" ++
  "|[-+]?[0-9][0-9_]*(?::[0-5]?[0-9])+\\.[0-9_]*" ++
  "|[-+]?\\.(?:inf|Inf|INF)" ++
  "|\\.(?:nan|NaN|NAN))$"

/-- Integers to base 2, 8, 10, 16 and 60. -/
def intForm : String :=
  "^(?:[-+]?0b[0-1_]+" ++
  "|[-+]?0[0-7_]+" ++
  "|[-+]?(?:0|[1-9][0-9_]*)" ++
  "|[-+]?0x[0-9a-fA-F_]+" ++
  "|[-+]?[1-9][0-9_]*(?::[0-5]?[0-9])+)$"

/-- Dates, and dates with a time. -/
def timestampForm : String :=
  "^(?:[0-9][0-9][0-9][0-9]-[0-9][0-9]-[0-9][0-9]" ++
  "|[0-9][0-9][0-9][0-9]-[0-9][0-9]?-[0-9][0-9]?" ++
  "(?:[Tt]|[ \\t]+)[0-9][0-9]?:[0-9][0-9]:[0-9][0-9](?:\\.[0-9]*)?" ++
  "(?:[ \\t]*(?:Z|[-+][0-9][0-9]?(?::[0-9][0-9])?))?)$"

/-- The null value, unless it is left out. -/
def nullForm : String := "^(?:~|null|Null|NULL)$"

/-- The forms of plain scalars with the types that they decide. -/
def plainForms : List (Regex × Tag) :=
  [(boolForm, .bool), (floatForm, .float), (intForm, .int), ("^<<$", .merge), (nullForm, .null),
    (timestampForm, .timestamp), ("^=$", .value), ("^[!&*]$", .other)].filterMap
    fun (form, tag) => match Regex.ofText form with
      | .ok regex => some (regex, tag)
      | .error _ => none

/-- The type of a plain scalar without a tag. -/
def ofPlain (text : String) : Tag :=
  if text.isEmpty then .null
  else
    ((plainForms.find? fun (form, _) => (form.search text.toList).isSome).map (·.2)).getD .text

end Tag

end LogSift.Yaml
