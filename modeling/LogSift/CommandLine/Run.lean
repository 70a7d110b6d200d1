import LogSift.CommandLine.Arguments
import LogSift.CommandLine.Help
import LogSift.CommandLine.Report
import LogSift.MatcherFile.Load
import LogSift.Text.Ansi

/-!
# Runs of the program

`run` is the whole program as a function: from the files of a directory, the standard input and
the arguments to the texts that are printed, the files afterwards and the way the run ends.

A run loads the matchers, selects one, reads the tool output, matches it and delivers a report.
It ends with code 1 if a record has the severity `error` and with 0 if not. Failures of the matcher,
of the input or of the system are reported and end it with code 2. What is left (`Escape`) ends the
run without a report of its own.

With the option for debugging, the steps of a run are logged.

The stack has a part in loading alone: what has been loaded is matched and shown without coming to
its end. Whatever is printed can be encoded, since no text here holds a lone surrogate.
-/

namespace LogSift.CommandLine

open Matcher (Description Record)
open MatcherFile (DocumentError LoadError Stack)

/-! ## Failures -/

/-- A failure that the program does not report. -/
inductive Escape where
  | load (error : LoadError)
  | matching (error : Matcher.Error)
  | report (fault : Fault)
  | system (error : SystemError)

/-- The wording of a failure. -/
def Escape.message : Escape → String
  | .load error => error.message
  | .matching error => error.message
  | .report fault => fault.message
  | .system error => error.message

/-- How a step fails. -/
inductive Failure where
  | reported (message : String)
  | escaped (e : Escape)

/-- Whether a matcher error is reported. -/
def isReported (e : Matcher.Error) : Bool :=
  match e.family with
  | .configuration | .input | .shape => true
  | .number | .range | .lookup | .kind | .expression | .outcome => false

/-- A matcher error as a failure. -/
def Failure.ofMatcher (e : Matcher.Error) : Failure :=
  if isReported e then .reported e.message else .escaped (.matching e)

/-- A document error as a failure. -/
def Failure.ofDocument : DocumentError → Failure
  | .matcher e => .ofMatcher e
  | e@(.ownerNotText _ _) => .escaped (.load (.document e))
  | e => .reported e.message

/-- A load error as a failure. -/
def Failure.ofLoad : LoadError → Failure
  | .document e => .ofDocument e
  | e@(.integer _) | e@(.yamlScalar _) | e@.loneSurrogate | e@.tooDeep => .escaped (.load e)
  | e => .reported e.message

/-- A system error as a failure. That a path cannot be asked for is none of the system's. -/
def Failure.ofSystem : SystemError → Failure
  | .embeddedNull => .escaped (.system .embeddedNull)
  | e => .reported e.message

/-! ## Logged steps -/

/-- A step that is worth a line in the log. -/
inductive LogEntry where
  | loaded (path : String) (owners : List String)
  | selected (owner : Value)
  | matching (owner : Value) (mode : Matcher.Mode) (subPatterns : Nat)
  | produced (owner : Value) (records : Nat)

/-- The line for a step. -/
def LogEntry.text : LogEntry → String
  | .loaded path owners =>
    "INFO problem_matcher.loader: Loaded " ++ toString owners.length ++ " matcher(s) from " ++ path
      ++ ": " ++ MatcherFile.joinOwners owners
  | .selected owner => "DEBUG problem_matcher.loader: Selected matcher " ++ owner.shown
  | .matching owner mode subPatterns =>
    "DEBUG problem_matcher.core.matcher: Matching with " ++ owner.shown ++ " (" ++ mode.name
      ++ " mode, " ++ toString subPatterns ++ " sub-patterns)"
  | .produced owner records =>
    "DEBUG problem_matcher.core.matcher: " ++ owner.shown ++ " produced " ++ toString records
      ++ " records"

/-- A result with the log of the steps that led to it. -/
structure Logged (α : Type) where
  log : List LogEntry
  result : Except Failure α

namespace Logged

/-- A result without log. -/
def ofExcept {α : Type} (result : Except Failure α) : Logged α := ⟨[], result⟩

/-- A line in the log. -/
def note (entry : LogEntry) : Logged Unit := ⟨[entry], .ok ()⟩

/-- One step after another. -/
def andThen {α β : Type} (x : Logged α) (f : α → Logged β) : Logged β :=
  match x.result with
  | .error e => ⟨x.log, .error e⟩
  | .ok a => ⟨x.log ++ (f a).log, (f a).result⟩

instance : Monad Logged where
  pure a := ⟨[], .ok a⟩
  bind := andThen

end Logged

/-- A result whose error is turned into a failure. -/
def orFail {ε α : Type} (failure : ε → Failure) (x : Except ε α) : Logged α :=
  match x with
  | .ok a => ⟨[], .ok a⟩
  | .error e => ⟨[], .error (failure e)⟩

/-! ## Steps -/

/-- Loads the matchers of a file. -/
def loadMatchers (stack : Stack) (d : Directory) (path : Path) : Logged (List Description) := do
  let matchers ← orFail .ofLoad (MatcherFile.load stack d path)
  Logged.note (.loaded path.text (matchers.map fun m => m.owner.shown))
  return matchers

/-- Selects a matcher by the owner that was asked for. -/
def selectMatcher (matchers : List Description) (owner : Option String) : Logged Description := do
  match owner with
  | none => orFail .ofDocument (MatcherFile.select matchers .null)
  | some owner =>
    let m ← orFail .ofDocument (MatcherFile.select matchers (.text owner))
    Logged.note (.selected (.text owner))
    return m

/-- Reads tool output from the standard input. -/
def readInput (input : List UInt8) : Except Failure String :=
  match Text.Utf8.decode input with
  | .ok text => .ok text
  | .error f =>
    .error (.reported ("Could not decode tool output from stdin: " ++ f.message))

/-- Reads tool output from a file; a hyphen stands for the standard input. -/
def readFile (d : Directory) (input : List UInt8) (name : String) : Except Failure String :=
  if name = "-" then readInput input
  else
    let path := Path.ofText name
    match d.exists? path with
    | .error e => .error (.reported e.message)
    | .ok false => .error (.reported ("Output file not found: " ++ path.text))
    | .ok true =>
      match d.read path with
      | .error e => .error (.reported e.message)
      | .ok octets =>
        .ok (String.ofList (Text.unifyNewlines (Text.Utf8.decodeLossy octets).toList))

/-- The tool output that a request is about. -/
def readSubject (d : Directory) (input : List UInt8) (i : Invocation) : Except Failure String :=
  match i.command with
  | .output => .ok i.subject
  | .file => readFile d input i.subject

/-- Matches tool output. -/
def matchText (m : Description) (text : String) : Logged (List Record) := do
  let job ← orFail .ofMatcher (Matcher.Job.prepare (.description m) (.text text))
  Logged.note (.matching m.owner job.mode m.pattern.length)
  let records ← orFail .ofMatcher job.records
  Logged.note (.produced m.owner records.length)
  return records

/-- Everything up to the records. -/
def findRecords (stack : Stack) (d : Directory) (input : List UInt8) (i : Invocation) :
    Logged (Description × List Record) := do
  let matchers ← loadMatchers stack d (.ofText i.matcher)
  let m ← selectMatcher matchers i.settings.owner
  let text ← Logged.ofExcept (readSubject d input i)
  let text := if i.settings.stripAnsi then Text.Ansi.stripText text else text
  let records ← matchText m text
  return (m, records)

/-! ## Outcomes -/

/-- How a run ends. -/
inductive Ending where
  | exit (code : Nat)
  | escape (e : Escape)

/-- Everything that a run leaves behind. -/
structure Outcome where
  ending : Ending
  output : String
  errors : String
  directory : Directory

/-- The report in a format. -/
def report (format : Format) (m : Description) (records : List Record) : Except Fault String :=
  match format with
  | .json => jsonReport records
  | .summary => summary m.owner records

/-- How a run ends whose report has been delivered. -/
def endingOf (records : List Record) : Ending :=
  match hasError records with
  | .ok true => .exit 1
  | .ok false => .exit 0
  | .error fault => .escape (.report fault)

/-- Delivers the report to the output or to a file. -/
def deliver (d : Directory) (settings : Settings) (m : Description) (records : List Record) :
    Outcome :=
  match report settings.format m records with
  | .error fault => ⟨.escape (.report fault), "", "", d⟩
  | .ok text =>
    match settings.output with
    | none => ⟨endingOf records, text ++ "\n", "", d⟩
    | some name =>
      match d.write (Path.ofText name) text with
      | .ok d => ⟨endingOf records, "", "", d⟩
      | .error e =>
        match Failure.ofSystem e with
        | .reported message => ⟨.exit 2, "", "Error: " ++ message ++ "\n", d⟩
        | .escaped e => ⟨.escape e, "", "", d⟩

/-- The log in writing. -/
def logText (log : List LogEntry) : String :=
  String.join (log.map fun entry => entry.text ++ "\n")

/-- Runs a request. The trace of a failure that debugging adds behind its report is left out. -/
def runInvocation (stack : Stack) (d : Directory) (input : List UInt8) (i : Invocation) : Outcome :=
  let found := findRecords stack d input i
  let log := if i.settings.debug then logText found.log else ""
  match found.result with
  | .ok (m, records) =>
    let outcome := deliver d i.settings m records
    { outcome with errors := log ++ outcome.errors }
  | .error (.reported message) => ⟨.exit 2, "", log ++ "Error: " ++ message ++ "\n", d⟩
  | .error (.escaped e) => ⟨.escape e, "", log, d⟩

/-- Runs the program. -/
def run (stack : Stack) (d : Directory) (input : List UInt8) (arguments : List String) : Outcome :=
  match parseArguments arguments with
  | .ok (.run i) => runInvocation stack d input i
  | .ok .nothing => ⟨.exit 1, helpText, "", d⟩
  | .error .help => ⟨.exit 0, helpText, "", d⟩
  | .error (.refused r) =>
    ⟨.exit 2, "", usage ++ "problem-matcher: error: " ++ r.message ++ "\n", d⟩

end LogSift.CommandLine
