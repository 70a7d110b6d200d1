import LogSift.Json.Printer
import LogSift.Matcher.Extract
import LogSift.Text.Truncate
import LogSift.Unicode.Lower

/-!
# Reports

A report shows the records of a run as a summary or as JSON. The summary counts the records by
severity, in lower case and sorted, and then has for each record a line with its place, severity,
message and code, and a line for every field of another name.

* `summary`, `jsonReport`: the text of a report.
* `hasError`: whether a record has the severity `error`.

A severity that has no lower case cannot be counted; this is a `Fault`, like a value that JSON
cannot show or an integer that is too long.
-/

namespace LogSift.CommandLine

open Matcher (Record)

/-- Why there is no report. -/
inductive Fault where
  /-- A severity of this kind has no lower case. -/
  | noLowerCase (kind : String)
  /-- Severities of these kinds have no order. -/
  | noOrder (left right : String)
  | json (fault : Json.PrintFault)
  /-- An integer cannot be shown. -/
  | integer (fault : Number.IntegerFault)
  deriving DecidableEq, Repr

/-- The wording of a fault. -/
def Fault.message : Fault → String
  | .noLowerCase kind => "'" ++ kind ++ "' object has no attribute 'lower'"
  | .noOrder left right =>
    "'<' not supported between instances of '" ++ left ++ "' and '" ++ right ++ "'"
  | .json fault => fault.message
  | .integer fault => fault.message

/-- A severity in lower case. -/
def lowerSeverity (v : Value) : Except Fault Scalar :=
  match v with
  | .text s => .ok (.text (Unicode.lowerText s))
  | .scalar (.octets bs) =>
    .ok (.octets (bs.map fun b => if 0x41 ≤ b && b ≤ 0x5A then b + 32 else b))
  | v => .error (.noLowerCase v.fullKind)

/-- The severity of a record, or another text if it has none. -/
def severityOr (default : String) (r : Record) : Value :=
  (Entries.field? "severity" r).getD (.text default)

/-- The severities of records in lower case. -/
def lowerSeverities : List Record → Except Fault (List Scalar)
  | [] => .ok []
  | r :: rest => do
    let s ← lowerSeverity (severityOr "unknown" r)
    return s :: (← lowerSeverities rest)

/-- Counts one more occurrence. -/
def countOne (s : Scalar) : List (Scalar × Nat) → List (Scalar × Nat)
  | [] => [(s, 1)]
  | (t, n) :: rest => if t = s then (t, n + 1) :: rest else (t, n) :: countOne s rest

/-- How often each severity occurs, in the order of first occurrences. -/
def tally (severities : List Scalar) : List (Scalar × Nat) :=
  severities.foldl (fun counts s => countOne s counts) []

/-- Whether a severity comes before another one: texts by code points, octets by value. -/
def comesBefore : Scalar → Scalar → Bool
  | .text s, .text t => s.toList < t.toList
  | .octets s, .octets t => s.map UInt8.toNat < t.map UInt8.toNat
  | _, _ => false

/-- Sorts counts by severity. Texts and octets have no common order, so the first severity of
another kind than the first one is refused. -/
def sortCounts (counts : List (Scalar × Nat)) : Except Fault (List (Scalar × Nat)) := do
  if let (first, _) :: rest := counts then
    if let some (other, _) := rest.find? fun (s, _) => s.fullKind != first.fullKind then
      throw (.noOrder other.fullKind first.fullKind)
  return counts.mergeSort fun a b => !comesBefore b.1 a.1

/-- The line for a severity. -/
def countLine (entry : Scalar × Nat) : String :=
  "  " ++ entry.1.shown ++ ": " ++ toString entry.2

/-- A field of a record as text, or another text if there is none. -/
def fieldOr (default name : String) (r : Record) : String :=
  ((Entries.field? name r).map Value.shown).getD default

/-- Where a record was found. -/
def location (r : Record) : String :=
  let line := match Entries.field? "line" r with
    | none => ""
    | some line =>
      ":" ++ line.shown ++ match Entries.field? "column" r with
        | none => ""
        | some column => ":" ++ column.shown
  fieldOr "<unknown>" "file" r ++ line

/-- The first line for a record. -/
def recordLine (r : Record) : String :=
  let code := match Entries.field? "code" r with
    | none => ""
    | some code => " [" ++ code.shown ++ "]"
  location r ++ ": " ++ (severityOr "unknown" r).shown ++ ": "
    ++ Text.truncateText Text.summaryWidth (fieldOr "" "message" r) ++ code

/-- The fields that the first line for a record can show. -/
def knownFields : List String := ["file", "line", "column", "severity", "message", "code"]

/-- Whether a field has a line of its own. -/
def isExtra (name : Scalar) : Bool := !knownFields.any fun known => name.sameKey (.text known)

/-- The lines for a record. -/
def recordLines (r : Record) : List String :=
  recordLine r :: (r.filter fun e => isExtra e.1).map fun (name, v) =>
    "     " ++ name.shown ++ ": " ++ v.shown

/-- Whether a record can be shown. -/
def isShowable (r : Record) : Bool := r.all fun (name, v) => name.isShowable && v.isShowable

/-- A line of signs. -/
def ruler (c : Char) (width : Nat) : String := String.ofList (List.replicate width c)

/-- The lines of a summary. -/
def summaryLines (owner : Value) (records : List Record) : Except Fault (List String) := do
  let counts ← sortCounts (tally (← lowerSeverities records))
  unless records.all isShowable do throw (.integer .tooLong)
  return [ruler '=' 60, "Matcher: " ++ owner.shown, "Diagnostics: " ++ toString records.length]
    ++ counts.map countLine
    ++ (if records.isEmpty then [] else [ruler '-' 40])
    ++ records.flatMap recordLines ++ [ruler '=' 60]

/-- The summary of records. -/
def summary (owner : Value) (records : List Record) : Except Fault String :=
  (summaryLines owner records).map (String.intercalate "\n")

/-- The records as JSON. -/
def jsonReport (records : List Record) : Except Fault String :=
  match Json.print (.list (records.map .map)) with
  | .ok s => .ok s
  | .error fault => .error (.json fault)

/-- Whether a record has the severity `error`. The first one that has decides. -/
def hasError : List Record → Except Fault Bool
  | [] => .ok false
  | r :: rest => do
    if (← lowerSeverity (severityOr "" r)) = .text "error" then return true
    else hasError rest

end LogSift.CommandLine
