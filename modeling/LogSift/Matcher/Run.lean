import LogSift.Outcome
import LogSift.Text.Lines
import LogSift.Matcher.Build
import LogSift.Matcher.Extract
import LogSift.Matcher.Validate

/-!
# Running matchers

* `singleRecords`: the only sub-pattern is applied to each line.
* `loopRecords`: a header line gives the context of the details after it. `detailRun` takes the
  details, passes over empty lines, and leaves the first other line as the next header.
* `sift`: the records of a text. The matcher is checked first, then the input, then the
  sub-patterns are built, then the mode is chosen.
* `Sifter`: a matcher that has been built once and can be run on any number of texts.
-/

namespace LogSift.Matcher

/-- A sub-pattern that is ready for matching. -/
structure Rule where
  regex : Regex
  fields : Entries Value

/-- The record of a line by a rule, if it matches. -/
def Rule.extract (rule : Rule) (severity : Value) (line : List Char) :
    Except Error (Option Record) :=
  Matcher.extract rule.regex line rule.fields severity

/-- The records of lines, each by itself. -/
def singleRecords (rule : Rule) (severity : Value) :
    List (List Char) → Except Error (List Record)
  | [] => .ok []
  | line :: rest => do
    let found ← rule.extract severity line
    let records ← singleRecords rule severity rest
    return found.toList ++ records

/-- The fields that headers read from a line, set over those of a record. -/
def headerFields (severity : Value) (line : List Char) :
    Record → List Rule → Except Error Record
  | record, [] => .ok record
  | record, rule :: rules => do
    match ← rule.extract severity line with
    | none => headerFields severity line record rules
    | some fields => headerFields severity line (Entries.merge record fields) rules

/-- The context that a header line gives. -/
def contextOf (headers : List Rule) (severity : Value) (line : List Char) : Except Error Record :=
  headerFields severity line [] headers

/-- The records of the details that come next, with a context, and the lines that are left: those
from the first line on that is neither empty nor a detail. -/
def detailRun (loop : Rule) (severity : Value) (context : Record) :
    List (List Char) → Except Error (List Record × List (List Char))
  | [] => .ok ([], [])
  | line :: rest =>
    if line.isEmpty then detailRun loop severity context rest
    else do
      match ← loop.extract severity line with
      | none => return ([], line :: rest)
      | some fields =>
        let (records, left) ← detailRun loop severity context rest
        return (Entries.merge context fields :: records, left)

theorem length_le_of_detailRun {loop : Rule} {severity : Value} {context : Record}
    {lines left : List (List Char)} {records : List Record}
    (h : detailRun loop severity context lines = .ok (records, left)) :
    left.length ≤ lines.length := by
  induction lines generalizing records with
  | nil => cases h; exact Nat.le_refl _
  | cons line rest ih =>
    rw [detailRun] at h
    split at h
    · exact Nat.le_succ_of_le (ih h)
    · obtain ⟨found, -, h⟩ := Outcome.bind_eq_ok.1 h
      cases found with
      | none => cases h; exact Nat.le_refl _
      | some fields =>
        obtain ⟨run, hr, h⟩ := Outcome.bind_eq_ok.1 h
        cases h
        exact Nat.le_succ_of_le (ih hr)

/-- The records of lines of which the first is a header: the details that come next take its
context, and the line at which they end is the next header. -/
def loopRecords (headers : List Rule) (loop : Rule) (severity : Value) :
    List (List Char) → Except Error (List Record)
  | [] => .ok []
  | header :: rest => do
    let context ← contextOf headers severity header
    match _h : detailRun loop severity context rest with
    | .error e => throw e
    | .ok (records, left) => return records ++ (← loopRecords headers loop severity left)
termination_by lines => lines.length
decreasing_by exact Nat.lt_succ_of_le (length_le_of_detailRun _h)

/-- Prepares sub-patterns that are numbered from an index on. -/
def rulesFrom (index : Nat) : List SubPattern → Except Error (List Rule)
  | [] => .ok []
  | s :: rest => do
    let regex ← compile index s.regexp
    return ⟨regex, s.fields⟩ :: (← rulesFrom (index + 1) rest)

/-- The records of a text in a mode. -/
def Description.records (d : Description) (mode : Mode) (text : String) :
    Except Error (List Record) := do
  let lines := Text.lines text.toList
  match mode with
  | .single =>
    match d.pattern with
    | [] => return []
    | s :: _ =>
      let regex ← compile 0 s.regexp
      singleRecords ⟨regex, s.fields⟩ d.severity lines
  | .loop =>
    let rules ← rulesFrom 0 d.pattern
    match rules.getLast? with
    | none => return []
    | some loop => loopRecords rules.dropLast loop d.severity lines

/-- The description of a matcher. -/
def Source.describe : Source → Except Error Description
  | .value v => Description.ofValue v
  | .description d => .ok d

/-- A matcher and a text for which everything has been checked. -/
structure Job where
  description : Description
  mode : Mode
  text : String

/-- Checks a matcher and its input, and chooses the mode. -/
def Job.prepare (source : Source) (input : Value) : Except Error Job := do
  source.validate
  let text ← validateInput input
  let description ← source.describe
  let mode ← description.mode
  return ⟨description, mode, text⟩

/-- The records of a job. -/
def Job.records (job : Job) : Except Error (List Record) :=
  job.description.records job.mode job.text

/-- The records that a matcher finds in an input. -/
def sift (source : Source) (input : Value) : Except Error (List Record) := do
  let job ← Job.prepare source input
  job.records

/-- A matcher that has been checked and built. -/
structure Sifter where
  description : Description
  deriving DecidableEq

namespace Sifter

/-- Checks and builds a matcher. -/
def ofSource (source : Source) : Except Error Sifter := do
  source.validate
  let description ← source.describe
  let _ ← description.mode
  return ⟨description⟩

/-- The records that the matcher finds in an input. -/
def sift (s : Sifter) (input : Value) : Except Error (List Record) :=
  Matcher.sift (.description s.description) input

end Sifter

end LogSift.Matcher
