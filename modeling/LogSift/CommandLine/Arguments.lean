import LogSift.Text.Quoted
import LogSift.Unicode.Digit

/-!
# Arguments

The command line is a command with its own arguments. Arguments are sorted into options, other
words and the mark `--`, after which there are no more options. An option may be shortened as long
as it stays clear which one is meant; its value may follow an equals sign, or directly a short
option. What the options ask for is done in their order, and the first thing that cannot be done
ends the reading.

* `parseArguments`: what a command line asks for.
-/

namespace LogSift.CommandLine

/-- The options of a command. -/
inductive Switch where
  | help
  | matcher
  | owner
  | format
  | output
  | stripAnsi
  | debug
  deriving DecidableEq, Repr

namespace Switch

/-- How an option may be written. -/
def spellings : Switch → List String
  | .help => ["-h", "--help"]
  | .matcher => ["--matcher", "-m"]
  | .owner => ["--owner"]
  | .format => ["--format"]
  | .output => ["--output", "-o"]
  | .stripAnsi => ["--strip-ansi"]
  | .debug => ["--debug"]

/-- Whether an option has a value. -/
def takesValue : Switch → Bool
  | .matcher | .owner | .format | .output => true
  | .help | .stripAnsi | .debug => false

/-- The option in a message. -/
def title (s : Switch) : String := String.intercalate "/" s.spellings

end Switch

/-- The options of a command, in the order in which they are looked through. -/
def commandSwitches : List Switch :=
  [.help, .matcher, .owner, .format, .output, .stripAnsi, .debug]

/-- The options in front of a command. -/
def topSwitches : List Switch := [.help]

/-- How options may be written. -/
def spellingsOf (switches : List Switch) : List (String × Switch) :=
  switches.flatMap fun s => s.spellings.map (·, s)

/-- Why a command line is refused. -/
inductive Refusal where
  | ambiguous (argument : String) (candidates : List String)
  | invalidChoice (title value : String) (choices : List String)
  | expectedValue (title : String)
  | ignoredValue (title value : String)
  | required (titles : List String)
  | unrecognized (arguments : List String)
  deriving DecidableEq, Repr

/-- The wording of a refusal. -/
def Refusal.message : Refusal → String
  | .ambiguous argument candidates =>
    "ambiguous option: " ++ argument ++ " could match " ++ String.intercalate ", " candidates
  | .invalidChoice title value choices =>
    "argument " ++ title ++ ": invalid choice: " ++ Text.quote value ++ " (choose from "
      ++ String.intercalate ", " (choices.map Text.quote) ++ ")"
  | .expectedValue title => "argument " ++ title ++ ": expected one argument"
  | .ignoredValue title value =>
    "argument " ++ title ++ ": ignored explicit argument " ++ Text.quote value
  | .required titles =>
    "the following arguments are required: " ++ String.intercalate ", " titles
  | .unrecognized arguments => "unrecognized arguments: " ++ String.intercalate " " arguments

/-- An option as it has been found in an argument. -/
structure Found where
  switch : Switch
  spelling : String
  /-- The text behind the option in the same argument. -/
  value : Option String

/-- The kinds of arguments. -/
inductive Kind where
  | word
  | mark
  | option (found : Found)
  /-- Something that looks like an option and is none. -/
  | unknown

/-! ## Sorting arguments -/

/-- Whether a text looks like a negative number. -/
def isNegativeNumber (s : List Char) : Bool :=
  match s with
  | '-' :: rest =>
    let body := if rest.getLast? = some '\n' then rest.dropLast else rest
    let fraction := (body.dropWhile Unicode.isDecimal).drop 1
    (!body.isEmpty && body.all Unicode.isDecimal) ||
      ((body.dropWhile Unicode.isDecimal).head? == some '.' && !fraction.isEmpty
        && fraction.all Unicode.isDecimal)
  | _ => false

/-- A text up to its first equals sign, and what follows the sign. -/
def cutAtEquals (s : List Char) : List Char × Option (List Char) :=
  match s.dropWhile (· != '=') with
  | [] => (s, none)
  | _ :: rest => (s.takeWhile (· != '='), some rest)

/-- The options that an argument with two hyphens can be short for. -/
def longCandidates (table : List (String × Switch)) (s : List Char) : List Found :=
  let (stem, value) := cutAtEquals s
  table.filterMap fun (spelling, switch) =>
    if stem.isPrefixOf spelling.toList then
      some ⟨switch, spelling, value.map String.ofList⟩
    else none

/-- The options that an argument with one hyphen can stand for. -/
def shortCandidates (table : List (String × Switch)) (s : List Char) : List Found :=
  table.filterMap fun (spelling, switch) =>
    if spelling.toList = s.take 2 then
      some ⟨switch, spelling, some (String.ofList (s.drop 2))⟩
    else if s.isPrefixOf spelling.toList then some ⟨switch, spelling, none⟩
    else none

/-- The option that is written out before an equals sign. -/
def exactBeforeEquals (table : List (String × Switch)) (s : List Char) : Option Found :=
  match cutAtEquals s with
  | (stem, some value) =>
    (table.lookup (String.ofList stem)).map fun switch =>
      ⟨switch, String.ofList stem, some (String.ofList value)⟩
  | _ => none

/-- The kind of an argument before the mark. -/
def kindOf (table : List (String × Switch)) (argument : String) : Except Refusal Kind :=
  match argument.toList with
  | '-' :: c :: rest =>
    let s := '-' :: c :: rest
    match table.lookup argument with
    | some switch => .ok (.option ⟨switch, argument, none⟩)
    | none =>
      match exactBeforeEquals table s with
      | some found => .ok (.option found)
      | none =>
        match if c = '-' then longCandidates table s else shortCandidates table s with
        | [found] => .ok (.option found)
        | [] => .ok (if isNegativeNumber s || s.contains ' ' then .word else .unknown)
        | candidates => .error (.ambiguous argument (candidates.map Found.spelling))
  | _ => .ok .word

/-- The kinds of all arguments. -/
def sortArguments (table : List (String × Switch)) :
    List String → Except Refusal (List (String × Kind))
  | [] => .ok []
  | argument :: rest =>
    if argument = "--" then .ok ((argument, .mark) :: rest.map fun a => (a, .word))
    else do
      let kind ← kindOf table argument
      return (argument, kind) :: (← sortArguments table rest)

/-! ## Doing what the options ask for -/

/-- The formats of the output. -/
inductive Format where
  | summary
  | json
  deriving DecidableEq, Repr

/-- The words for formats. -/
def Format.names : List String := ["summary", "json"]

/-- The format with a name. -/
def Format.ofName? : String → Option Format
  | "summary" => some .summary
  | "json" => some .json
  | _ => none

/-- What the options of a command ask for. -/
structure Settings where
  matcher : Option String := none
  owner : Option String := none
  format : Format := .summary
  output : Option String := none
  stripAnsi : Bool := false
  debug : Bool := false
  deriving DecidableEq, Repr

/-- Why reading ends before all arguments have been read. -/
inductive Stop where
  | help
  | refused (r : Refusal)

/-- Does what an option asks for. -/
def perform (settings : Settings) (switch : Switch) (value : String) : Except Stop Settings :=
  match switch with
  | .help => .error .help
  | .matcher => .ok { settings with matcher := some value }
  | .owner => .ok { settings with owner := some value }
  | .format =>
    match Format.ofName? value with
    | some format => .ok { settings with format }
    | none => .error (.refused (.invalidChoice switch.title value Format.names))
  | .output => .ok { settings with output := some value }
  | .stripAnsi => .ok { settings with stripAnsi := true }
  | .debug => .ok { settings with debug := true }

/-- Does what options ask for, in order. -/
def performAll (settings : Settings) : List (Switch × String) → Except Stop Settings
  | [] => .ok settings
  | (switch, value) :: rest => do
    performAll (← perform settings switch value) rest

/-- Options that stand in one argument: those that are complete, and an option that still needs the
next argument as its value. -/
structure Cluster where
  complete : List (Switch × String)
  waiting : Option Switch

/-- Adds a complete option in front. -/
def Cluster.push (c : Cluster) (switch : Switch) (value : String) : Cluster :=
  { c with complete := (switch, value) :: c.complete }

/-- Takes an option with text behind it apart. The text is the value of the option, or more short
options behind a short one without value. -/
def cluster (table : List (String × Switch)) (switch : Switch) (isShort : Bool) :
    (text : List Char) → Except Refusal Cluster
  | [] =>
    if switch.takesValue then .ok ⟨[(switch, "")], none⟩
    else .error (.ignoredValue switch.title "")
  | c :: rest =>
    let text := String.ofList (c :: rest)
    if switch.takesValue then .ok ⟨[(switch, text)], none⟩
    else if !isShort then .error (.ignoredValue switch.title text)
    else match table.lookup (String.ofList ['-', c]), rest with
      | none, _ => .error (.ignoredValue switch.title text)
      | some next, [] =>
        if next.takesValue then .ok ⟨[(switch, "")], some next⟩
        else .ok ⟨[(switch, ""), (next, "")], none⟩
      | some next, rest => (cluster table next true rest).map (·.push switch "")

/-- The options of an argument. -/
def Found.cluster (table : List (String × Switch)) (f : Found) : Except Refusal Cluster :=
  match f.value with
  | none =>
    if f.switch.takesValue then .ok ⟨[], some f.switch⟩ else .ok ⟨[(f.switch, "")], none⟩
  | some value =>
    CommandLine.cluster table f.switch (!"--".toList.isPrefixOf f.spelling.toList) value.toList

/-- What has been read of the arguments of a command. -/
structure Reading where
  settings : Settings
  /-- The argument that is no option. -/
  subject : Option String
  /-- Arguments that nothing asks for, last one first. -/
  extra : List String

/-- The arguments after the last option: the subject if it is still missing, with the mark next to
it, and extra arguments. -/
def readTail (r : Reading) (arguments : List String) : Reading :=
  let leftOver (rest : List String) : Reading := { r with extra := rest.reverse ++ r.extra }
  match r.subject, arguments with
  | none, "--" :: word :: rest => { leftOver rest with subject := some word }
  | none, ["--"] => leftOver ["--"]
  | none, word :: "--" :: rest => { leftOver rest with subject := some word }
  | none, word :: rest => { leftOver rest with subject := some word }
  | _, rest => leftOver rest

/-- Whether there is an option among arguments. -/
def hasOption (arguments : List (String × Kind)) : Bool :=
  arguments.any fun (_, kind) => match kind with
    | .option _ | .unknown => true
    | .word | .mark => false

/-- Adds an argument that nothing asks for. -/
def Reading.addExtra (r : Reading) (argument : String) : Reading :=
  { r with extra := argument :: r.extra }

/-- Does what the options of an argument ask for, when the value of the last one is known. -/
def Reading.performed (r : Reading) (options : List (Switch × String)) : Except Stop Reading := do
  return { r with settings := ← performAll r.settings options }

/-- Reads the arguments of a command. `waiting` holds options that have been taken from the
argument before, of which the last one has its value in the next argument. -/
def readCommand (table : List (String × Switch)) (r : Reading)
    (waiting : Option (List (Switch × String) × Switch)) :
    List (String × Kind) → Except Stop Reading
  | [] =>
    match waiting with
    | some (_, switch) => .error (.refused (.expectedValue switch.title))
    | none => .ok (readTail r [])
  | (argument, kind) :: rest =>
    match waiting with
    | some (complete, switch) =>
      match kind with
      | .word => do
        readCommand table (← r.performed (complete ++ [(switch, argument)])) none rest
      | _ => .error (.refused (.expectedValue switch.title))
    | none =>
      if !hasOption ((argument, kind) :: rest) then
        .ok (readTail r (argument :: rest.map Prod.fst))
      else match kind with
        | .word | .mark =>
          if r.subject.isNone then readCommand table { r with subject := some argument } none rest
          else readCommand table (r.addExtra argument) none rest
        | .unknown => readCommand table (r.addExtra argument) none rest
        | .option found =>
          match found.cluster table with
          | .error e => .error (.refused e)
          | .ok c => match c.waiting with
            | some switch => readCommand table r (some (c.complete, switch)) rest
            | none => do readCommand table (← r.performed c.complete) none rest

/-! ## Commands -/

/-- The commands. -/
inductive Command where
  /-- The tool output is in a file. -/
  | file
  /-- The tool output is the argument. -/
  | output
  deriving DecidableEq, Repr

/-- The words for commands. -/
def Command.names : List String := ["file", "output"]

/-- The command with a name. -/
def Command.ofName? : String → Option Command
  | "file" => some .file
  | "output" => some .output
  | _ => none

/-- The name of the argument of a command. -/
def Command.title : Command → String
  | .file => "file"
  | .output => "output"

/-- A complete request. -/
structure Invocation where
  command : Command
  subject : String
  matcher : String
  settings : Settings
  deriving DecidableEq, Repr

/-- Reads the arguments after the name of a command; also gives those that nothing asks for. -/
def readInvocation (command : Command) (arguments : List String) :
    Except Stop (Invocation × List String) := do
  let table := spellingsOf commandSwitches
  match sortArguments table arguments with
  | .error e => throw (.refused e)
  | .ok sorted =>
    let r ← readCommand table ⟨{}, none, []⟩ none sorted
    match r.subject, r.settings.matcher with
    | some subject, some matcher =>
      return (⟨command, subject, matcher, r.settings⟩, r.extra.reverse)
    | subject, matcher =>
      throw (.refused (.required ((if subject.isNone then [command.title] else []) ++
        (if matcher.isNone then [Switch.matcher.title] else []))))

/-- What a command line asks for. -/
inductive Request where
  /-- There is no command. -/
  | nothing
  | run (i : Invocation)

/-- Reads the name of a command and its arguments. `extra` are arguments in front that nothing asks
for. -/
def readNamed (extra : List String) (name : String) (arguments : List String) :
    Except Stop Request := do
  match Command.ofName? name with
  | none => throw (.refused (.invalidChoice "command" name Command.names))
  | some command =>
    let (invocation, more) ← readInvocation command arguments
    match extra ++ more with
    | [] => return .run invocation
    | unknown => throw (.refused (.unrecognized unknown))

/-- Reads arguments up to the name of a command. -/
def readTop (table : List (String × Switch)) (extra : List String) :
    List (String × Kind) → Except Stop Request
  | [] =>
    match extra with
    | [] => .ok .nothing
    | unknown => .error (.refused (.unrecognized unknown))
  | (argument, kind) :: rest =>
    match kind with
    | .word => readNamed extra argument (rest.map Prod.fst)
    | .mark =>
      if rest.isEmpty then .error (.refused (.unrecognized (extra ++ [argument])))
      else readNamed extra argument (rest.map Prod.fst)
    | .unknown => readTop table (extra ++ [argument]) rest
    | .option found =>
      match found.cluster table with
      | .error e => .error (.refused e)
      | .ok c => do
        let _ ← performAll {} c.complete
        readTop table extra rest

/-- Reads a command line. -/
def parseArguments (arguments : List String) : Except Stop Request := do
  let table := spellingsOf topSwitches
  match sortArguments table arguments with
  | .error e => throw (.refused e)
  | .ok sorted => readTop table [] sorted

end LogSift.CommandLine
