import LogSift.CommandLine.Run
import LogSift.Proofs.CommandLine.Report
import LogSift.Proofs.Directory
import LogSift.Proofs.MatcherFile.Load

/-!
# How runs end

A run ends with code 0, 1 or 2 (`IsExitCode`), or an escape ends it. With matchers from a JSON file
there are three escapes (`IsEscape`): a match that makes no sense, a severity of the matcher that is
no text and that a record has, and a path for the report that leads nowhere.

* `findRecords_result`: the steps up to the records without their log.
* `isReported_or_broken_of_sift`: the errors of a matcher from a JSON document.
* `ending_runInvocation`, `deliver_cases`: how a run ends after these steps, and after records.
* `run_ends`: all of it, for the arguments of a run.
-/

namespace LogSift.CommandLine

open Matcher (Description Record IsLineFault sift)
open MatcherFile (DocumentError IsDescribedBy Stack)

/-! ## Logged steps -/

namespace Logged

variable {α β : Type}

@[simp] theorem result_pure (a : α) : (pure a : Logged α).result = pure a := rfl

@[simp] theorem result_note (entry : LogEntry) : (note entry).result = pure () := rfl

@[simp] theorem result_ofExcept (x : Except Failure α) : (ofExcept x).result = x := rfl

@[simp] theorem result_bind (x : Logged α) (f : α → Logged β) :
    (x >>= f).result = x.result >>= fun a => (f a).result := by
  change (andThen x f).result = _
  unfold andThen
  cases x.result with
  | error e => rfl
  | ok a => rfl

end Logged

@[simp] theorem result_orFail {ε α : Type} (failure : ε → Failure) (x : Except ε α) :
    (orFail failure x).result = x.mapError failure := by
  cases x with
  | error e => rfl
  | ok a => rfl

/-- The owner that is asked for, or null if none is. -/
def wantedOwner (owner : Option String) : Value := (owner.map Value.text).getD .null

/-- The tool output of a request, as it is matched. -/
def matchedText (d : Directory) (input : List UInt8) (i : Invocation) : Except Failure String :=
  (fun text => if i.settings.stripAnsi then Text.Ansi.stripText text else text) <$>
    readSubject d input i

theorem selectMatcher_result (matchers : List Description) (owner : Option String) :
    (selectMatcher matchers owner).result =
      (MatcherFile.select matchers (wantedOwner owner)).mapError .ofDocument := by
  cases owner with
  | none => simp [selectMatcher, wantedOwner]
  | some owner => simp [selectMatcher, wantedOwner]

theorem matchText_result (m : Description) (text : String) :
    (matchText m text).result = (sift (.description m) (.text text)).mapError .ofMatcher := by
  simp [matchText, sift, Outcome.mapError_bind]

/-- The steps up to the records. -/
theorem findRecords_result (stack : Stack) (d : Directory) (input : List UInt8) (i : Invocation) :
    (findRecords stack d input i).result = (do
      let matchers ← (MatcherFile.load stack d (.ofText i.matcher)).mapError .ofLoad
      let m ← (MatcherFile.select matchers (wantedOwner i.settings.owner)).mapError .ofDocument
      let text ← matchedText d input i
      let records ← (sift (.description m) (.text text)).mapError .ofMatcher
      return (m, records)) := by
  simp [findRecords, loadMatchers, selectMatcher_result, matchText_result, matchedText]

/-! ## Failures that are reported -/

/-- Of matchers whose owners are texts one can be selected, or it is reported that this is not
possible. -/
theorem isReported_of_select {matchers : List Description} {owners : List String} {owner : Value}
    {e : DocumentError} (howners : matchers.map Description.owner = owners.map Value.text)
    (h : MatcherFile.select matchers owner = .error e) :
    ∃ message, Failure.ofDocument e = .reported message := by
  by_cases hnull : owner = .null
  · rw [hnull, MatcherFile.select_null] at h
    obtain ⟨-, rfl⟩ := (MatcherFile.selectOnly_eq_error_iff howners).1 h
    exact ⟨_, rfl⟩
  · rw [MatcherFile.select_of_ne_null hnull] at h
    obtain ⟨-, rfl⟩ := MatcherFile.selectOwner_eq_error_iff.1 h
    exact ⟨_, rfl⟩

theorem isReported_of_readInput {input : List UInt8} {failure : Failure}
    (h : readInput input = .error failure) : ∃ message, failure = .reported message := by
  unfold readInput at h
  split at h
  · cases h
  · cases h
    exact ⟨_, rfl⟩

theorem isReported_of_readFile {d : Directory} {input : List UInt8} {name : String}
    {failure : Failure} (h : readFile d input name = .error failure) :
    ∃ message, failure = .reported message := by
  unfold readFile at h
  split at h
  · exact isReported_of_readInput h
  · dsimp only at h
    split at h
    · cases h
      exact ⟨_, rfl⟩
    · cases h
      exact ⟨_, rfl⟩
    · split at h
      · cases h
        exact ⟨_, rfl⟩
      · cases h

theorem isReported_of_matchedText {d : Directory} {input : List UInt8} {i : Invocation}
    {failure : Failure} (h : matchedText d input i = .error failure) :
    ∃ message, failure = .reported message := by
  have h : readSubject d input i = .error failure := Outcome.map_eq_error.1 h
  unfold readSubject at h
  split at h
  · cases h
  · exact isReported_of_readFile h

/-! ## Matching -/

/-- What is wrong with a match that stops a run and is not reported. -/
theorem isReported_or_broken_of_isMatchFault {s : Matcher.SubPattern} {regex : Regex}
    {m : Regex.Match} {e : Matcher.Error} (h : Matcher.IsMatchFault s regex m e) :
    isReported e = true ∨ e = .brokenMatch := by
  cases h with
  | broken => exact .inr rfl
  | whole => exact .inl rfl
  | missing => exact .inl rfl

/-- A matcher from a JSON document fails on a text with an error that is reported, or because a
match makes no sense. -/
theorem isReported_or_broken_of_sift {entry : Value} {m : Description} {text : String}
    {e : Matcher.Error} (hjson : entry.isJson = true) (hm : IsDescribedBy entry m)
    (h : sift (.description m) (.text text) = .error e) :
    isReported e = true ∨ e = .brokenMatch ∧ IsLineFault m.pattern text e := by
  -- What has been loaded passes the checks and is built, so the input, the shape and the lines are
  -- left.
  by_cases ht : text = ""
  · subst ht
    have hvalid := Matcher.validate_of_ofValue hm.1 hm.2
    have hinput : Matcher.validateInput (.text "") = .error .noInput := rfl
    cases (Matcher.sift_of_no_text hvalid hinput).symm.trans h
    exact .inl rfl
  by_cases hshape : Matcher.IsRunnable m.pattern
  · obtain ⟨mode, hmode⟩ := Matcher.exists_mode_iff.2 hshape
    rw [Matcher.sift_of_ready (Matcher.validate_of_ofValue hm.1 hm.2) rfl hmode,
      Matcher.validateInput_text ht, Outcome.ok_bind] at h
    have hline := Matcher.isLineFault_of_records (Matcher.isBuilt_of_ofValue hjson hm.2) hmode h
    have ⟨s, _, regex, _, line, _, found, _, hfault⟩ := hline
    exact (isReported_or_broken_of_isMatchFault hfault).imp_right (⟨·, hline⟩)
  · rw [Matcher.sift_of_described (Matcher.validate_of_ofValue hm.1 hm.2) rfl,
      Matcher.validateInput_text ht, Outcome.ok_bind, Matcher.mode_eq_unsupported hshape] at h
    cases h
    exact .inl rfl

/-! ## Delivering -/

/-- The code of records: 1 if one of them is an error, and 0 if none is. -/
inductive IsVerdict (records : List Record) : Nat → Prop
  | error : (∃ r ∈ records, IsError r) → IsVerdict records 1
  | clean : (∀ r ∈ records, ¬ IsError r) → IsVerdict records 0

theorem IsVerdict.le_one {records : List Record} {code : Nat} (h : IsVerdict records code) :
    code ≤ 1 := by
  cases h with
  | error => exact Nat.le_refl 1
  | clean => exact Nat.zero_le 1

/-- Whether a report cannot be written to the file that it is for. -/
def IsUnwritten (d : Directory) (settings : Settings) (m : Description) (records : List Record) :
    Prop :=
  ∃ text name e, report settings.format m records = .ok text ∧ settings.output = some name ∧
    d.write (.ofText name) text = .error e

/-- Whether the report is for a path that leads nowhere, because of a null character. -/
def IsNowhere (settings : Settings) : Prop :=
  ∃ name, settings.output = some name ∧ (Path.ofText name).hasNull = true

theorem endingOf_cases {severity : Value} {records : List Record} (hjson : severity.isJson = true)
    (h : ∀ r ∈ records, IsReportable severity r) :
    (∃ code, IsVerdict records code ∧ endingOf records = .exit code) ∨
      ∃ fault, IsSeverityFault severity records fault ∧
        endingOf records = .escape (.report fault) := by
  unfold endingOf
  cases hfound : hasError records with
  | error fault => exact .inr ⟨fault, fault_of_hasError hjson h hfound, rfl⟩
  | ok found =>
    have herror := hasError_eq_true_iff hfound
    cases found with
    | true => exact .inl ⟨1, .error (herror.1 rfl), rfl⟩
    | false =>
      refine .inl ⟨0, .clean fun r hr hbad => ?_, rfl⟩
      cases herror.2 ⟨r, hr, hbad⟩

theorem fault_of_report {format : Format} {m : Description} {records : List Record} {fault : Fault}
    (hjson : m.severity.isJson = true) (h : ∀ r ∈ records, IsReportable m.severity r)
    (hfault : report format m records = .error fault) :
    IsSeverityFault m.severity records fault := by
  cases format with
  | json =>
    obtain ⟨text, htext⟩ := jsonReport_ok hjson h
    cases htext.symm.trans hfault
  | summary => exact fault_of_summary hjson h hfault

theorem ofSystem_eq_escaped {e : SystemError} {e' : Escape}
    (h : Failure.ofSystem e = .escaped e') :
    e = .embeddedNull ∧ e' = .system .embeddedNull := by
  unfold Failure.ofSystem at h
  split at h
  · cases h
    exact ⟨rfl, rfl⟩
  · cases h

/-- How a run ends that has found records. -/
theorem deliver_cases {m : Description} {records : List Record}
    (hjson : m.severity.isJson = true) (h : ∀ r ∈ records, IsReportable m.severity r)
    (d : Directory) (settings : Settings) :
    IsUnwritten d settings m records ∧ (deliver d settings m records).ending = .exit 2 ∨
      (∃ code, IsVerdict records code ∧ (deliver d settings m records).ending = .exit code) ∨
      (∃ fault, IsSeverityFault m.severity records fault ∧
        (deliver d settings m records).ending = .escape (.report fault)) ∨
      IsNowhere settings ∧
        (deliver d settings m records).ending = .escape (.system .embeddedNull) := by
  unfold deliver IsUnwritten
  cases hreport : report settings.format m records with
  | error fault => exact .inr (.inr (.inl ⟨fault, fault_of_report hjson h hreport, rfl⟩))
  | ok text =>
    cases houtput : settings.output with
    | none => exact .inr ((endingOf_cases hjson h).imp_right .inl)
    | some name =>
      dsimp only
      cases hwrite : d.write (Path.ofText name) text with
      | ok d => exact .inr ((endingOf_cases hjson h).imp_right .inl)
      | error e =>
        cases hfailure : Failure.ofSystem e with
        | reported message =>
          exact .inl ⟨⟨text, name, e, rfl, rfl, hwrite⟩, by simp only [hfailure]⟩
        | escaped e' =>
          obtain ⟨rfl, rfl⟩ := ofSystem_eq_escaped hfailure
          exact .inr (.inr (.inr ⟨⟨name, houtput, Directory.hasNull_of_write hwrite⟩, rfl⟩))

/-! ## Runs -/

/-- Whether a run finds records: those of the matcher that is selected, in the tool output. -/
structure Finds (d : Directory) (input : List UInt8) (i : Invocation)
    (matchers : List Description) (m : Description) (records : List Record) : Prop where
  selected : MatcherFile.select matchers (wantedOwner i.settings.owner) = .ok m
  found : ∃ text, matchedText d input i = .ok text ∧
    sift (.description m) (.text text) = .ok records

/-- The code of a run with matchers: 2 if a step fails and this is reported, or if the report cannot
be written, and otherwise that of the records. -/
inductive IsExitCode (stack : Stack) (d : Directory) (input : List UInt8) (i : Invocation)
    (matchers : List Description) : Nat → Prop
  | failed {message : String} : (findRecords stack d input i).result = .error (.reported message) →
    IsExitCode stack d input i matchers 2
  | unwritten {m : Description} {records : List Record} : Finds d input i matchers m records →
    IsUnwritten d i.settings m records → IsExitCode stack d input i matchers 2
  | verdict {m : Description} {records : List Record} {code : Nat} :
    Finds d input i matchers m records → IsVerdict records code →
    IsExitCode stack d input i matchers code

/-- How a matcher ends a run on a text by an escape: a match in it makes no sense, the severity of
the matcher is no text and one of the records that it finds has this severity, or the report is for
a path that leads nowhere. -/
inductive IsEscape (settings : Settings) (m : Description) (text : String) : Escape → Prop
  | broken : sift (.description m) (.text text) = .error .brokenMatch →
    IsLineFault m.pattern text .brokenMatch → IsEscape settings m text (.matching .brokenMatch)
  | severity {records : List Record} {fault : Fault} :
    sift (.description m) (.text text) = .ok records →
    IsSeverityFault m.severity records fault → IsEscape settings m text (.report fault)
  | nowhere {records : List Record} : sift (.description m) (.text text) = .ok records →
    IsNowhere settings → IsEscape settings m text (.system .embeddedNull)

theorem ending_runInvocation (stack : Stack) (d : Directory) (input : List UInt8)
    (i : Invocation) :
    (runInvocation stack d input i).ending =
      match (findRecords stack d input i).result with
      | .ok (m, records) => (deliver d i.settings m records).ending
      | .error (.reported _) => .exit 2
      | .error (.escaped e) => .escape e := by
  unfold runInvocation
  dsimp only
  cases (findRecords stack d input i).result with
  | ok found => rfl
  | error failure =>
    cases failure with
    | reported message => rfl
    | escaped e => rfl

/-- A run with arguments that are understood is the run of the request. -/
theorem run_of_arguments {arguments : List String} {i : Invocation}
    (h : parseArguments arguments = .ok (.run i)) (stack : Stack) (d : Directory)
    (input : List UInt8) :
    run stack d input arguments = runInvocation stack d input i := by
  rw [run, h]

theorem isJson_severity {entry : Value} {m : Description} (hjson : entry.isJson = true)
    (h : Description.ofValue entry = .ok m) : m.severity.isJson = true := by
  obtain ⟨entries, rfl, hm⟩ := Description.ofValue_eq_ok_iff.1 h
  rw [← hm.severity]
  cases hseverity : Entries.field? "severity" entries with
  | none => rfl
  | some v => exact Entries.isJson_of_get? hjson hseverity

/-- What the steps up to the records come to, with a JSON file that gives matchers: a failure that
is reported, a match that makes no sense, or records. -/
theorem findRecords_cases {stack : Stack} {d : Directory} {i : Invocation}
    {matchers : List Description}
    (hsuffix : MatcherFile.notationOf? (Path.ofText i.matcher).suffix = some .json)
    (hload : MatcherFile.load stack d (.ofText i.matcher) = .ok matchers) (input : List UInt8) :
    (∃ message, (findRecords stack d input i).result = .error (.reported message)) ∨
      ∃ m text entry, MatcherFile.select matchers (wantedOwner i.settings.owner) = .ok m ∧
        matchedText d input i = .ok text ∧ entry.isJson = true ∧ IsDescribedBy entry m ∧
        ((findRecords stack d input i).result = .error (.escaped (.matching .brokenMatch)) ∧
            sift (.description m) (.text text) = .error .brokenMatch ∧
            IsLineFault m.pattern text .brokenMatch ∨
          ∃ records, (findRecords stack d input i).result = .ok (m, records) ∧
            sift (.description m) (.text text) = .ok records) := by
  rw [findRecords_result, hload]
  simp only [Except.mapError, Outcome.ok_bind]
  obtain ⟨-, -, -, owners, howners⟩ := MatcherFile.load_eq_ok_iff.1 hload
  cases hselect : MatcherFile.select matchers (wantedOwner i.settings.owner) with
  | error e =>
    obtain ⟨message, hmessage⟩ := isReported_of_select howners hselect
    exact .inl ⟨message, congrArg Except.error hmessage⟩
  | ok m =>
    obtain ⟨entry, hjson, hm⟩ := MatcherFile.exists_entry_of_load hsuffix hload
      (MatcherFile.mem_of_select hselect)
    cases htext : matchedText d input i with
    | error failure =>
      obtain ⟨message, rfl⟩ := isReported_of_matchedText htext
      exact .inl ⟨message, rfl⟩
    | ok text =>
      simp only [Outcome.ok_bind]
      cases hsift : sift (.description m) (.text text) with
      | error e =>
        rcases isReported_or_broken_of_sift hjson hm hsift with hreport | ⟨rfl, hline⟩
        · exact .inl ⟨e.message, congrArg Except.error (if_pos hreport)⟩
        · exact .inr ⟨m, text, entry, rfl, rfl, hjson, hm, .inl ⟨rfl, hsift, hline⟩⟩
      | ok records => exact .inr ⟨m, text, entry, rfl, rfl, hjson, hm, .inr ⟨records, rfl, hsift⟩⟩

/-- **How runs end.** A run with arguments that are understood and with a JSON file that gives
matchers ends with code 0, 1 or 2, as its steps and its records have it, or the matcher that is
selected ends it on the tool output by an escape. A file that escapes a lone surrogate gives no
matchers here, so nothing is said of its runs. -/
theorem run_ends {stack : Stack} {d : Directory} {input : List UInt8} {arguments : List String}
    {i : Invocation} {matchers : List Description}
    (harguments : parseArguments arguments = .ok (.run i))
    (hsuffix : MatcherFile.notationOf? (Path.ofText i.matcher).suffix = some .json)
    (hload : MatcherFile.load stack d (.ofText i.matcher) = .ok matchers) :
    (∃ code ≤ 2, IsExitCode stack d input i matchers code ∧
        (run stack d input arguments).ending = .exit code) ∨
      ∃ m text e, MatcherFile.select matchers (wantedOwner i.settings.owner) = .ok m ∧
        matchedText d input i = .ok text ∧ IsEscape i.settings m text e ∧
        (run stack d input arguments).ending = .escape e := by
  have hrun : run stack d input arguments = runInvocation stack d input i := by rw [run, harguments]
  rw [hrun]
  rcases findRecords_cases hsuffix hload input with
    ⟨message, hfailure⟩ | ⟨m, text, entry, hselect, htext, hjson, hm, hfound⟩
  · have hending : (runInvocation stack d input i).ending = .exit 2 := by
      rw [ending_runInvocation, hfailure]
    exact .inl ⟨2, Nat.le_refl 2, .failed hfailure, hending⟩
  rcases hfound with ⟨hfailure, hsift, hline⟩ | ⟨records, hfound, hsift⟩
  · have hending : (runInvocation stack d input i).ending = .escape (.matching .brokenMatch) := by
      rw [ending_runInvocation, hfailure]
    exact .inr ⟨m, text, _, hselect, htext, .broken hsift hline, hending⟩
  · have hdelivered : (runInvocation stack d input i).ending =
        (deliver d i.settings m records).ending := by
      rw [ending_runInvocation, hfound]
    have hfinds : Finds d input i matchers m records := ⟨hselect, text, htext, hsift⟩
    rw [hdelivered]
    rcases deliver_cases (isJson_severity hjson hm.2) (isReportable_of_sift hjson hm.2 hsift) d
      i.settings with ⟨hunwritten, hending⟩ | ⟨code, hverdict, hending⟩ |
        ⟨fault, hfault, hending⟩ | ⟨hnowhere, hending⟩
    · exact .inl ⟨2, Nat.le_refl 2, .unwritten hfinds hunwritten, hending⟩
    · exact .inl ⟨code, Nat.le_succ_of_le hverdict.le_one, .verdict hfinds hverdict, hending⟩
    · exact .inr ⟨m, text, _, hselect, htext, .severity hsift hfault, hending⟩
    · exact .inr ⟨m, text, _, hselect, htext, .nowhere hsift hnowhere, hending⟩

/-- A matcher whose severity is a number. -/
def numberSeverity : Directory :=
  MatcherFile.withMatchers
    "\x7b\"owner\": \"o\", \"severity\": 5, \"pattern\": [\x7b\"regexp\": \"x\"\x7d]\x7d"

/-- The arguments that ask for the records of a text in JSON. -/
def jsonArguments : List String := ["output", "x", "-m", "m.json", "--format", "json"]

/-- The run that arguments ask for. -/
def invocation? (arguments : List String) : Option Invocation :=
  match parseArguments arguments with
  | .ok (.run i) => some i
  | _ => none

theorem invocation?_eq_some {arguments : List String} {i : Invocation} :
    invocation? arguments = some i ↔ parseArguments arguments = .ok (.run i) := by
  unfold invocation?
  split
  · next j h => simp [h]
  · next h =>
    simp only [reduceCtorEq, false_iff]
    exact h i

/-- The code with which a run ends. -/
def Ending.code? : Ending → Option Nat
  | .exit code => some code
  | .escape _ => none

theorem Ending.code?_eq_some {e : Ending} {code : Nat} : e.code? = some code ↔ e = .exit code := by
  cases e with
  | exit n => simp [Ending.code?]
  | escape e => simp [Ending.code?]

theorem code?_numberSeverity :
    (run .unbounded numberSeverity [] jsonArguments).ending.code? = none := by
  decide +kernel

/-- A matcher file that loads, arguments that ask for its records, and their run. -/
theorem exists_numberSeverity : ∃ i matchers, parseArguments jsonArguments = .ok (.run i) ∧
    MatcherFile.notationOf? (Path.ofText i.matcher).suffix = some .json ∧
    MatcherFile.load .unbounded numberSeverity (.ofText i.matcher) = .ok matchers := by
  have harguments : invocation? jsonArguments =
      some ⟨.output, "x", "m.json", { matcher := some "m.json", format := .json }⟩ := by
    decide +kernel
  have hload : (Outcome.error?
      (MatcherFile.load .unbounded numberSeverity (.ofText "m.json"))).isNone = true := by
    decide +kernel
  obtain ⟨matchers, hmatchers⟩ :=
    Outcome.error?_eq_none.1 (Option.isNone_iff_eq_none.1 hload)
  exact ⟨_, matchers, invocation?_eq_some.1 harguments, by decide +kernel, hmatchers⟩

/-- The severity is a number, and an escape ends the run. -/
theorem run_ends_numberSeverity : ∃ settings m text e, IsEscape settings m text e ∧
    (run .unbounded numberSeverity [] jsonArguments).ending = .escape e := by
  obtain ⟨i, matchers, harguments, hsuffix, hload⟩ := exists_numberSeverity
  rcases run_ends harguments hsuffix hload with
    ⟨code, -, -, hcode⟩ | ⟨m, text, e, -, -, he, hending⟩
  · cases (congrArg Ending.code? hcode).symm.trans code?_numberSeverity
  · exact ⟨i.settings, m, text, e, he, hending⟩

/-- Arguments that are understood and a JSON file that gives matchers do not make sure that there is
a code. -/
theorem run_without_code :
    (∃ i matchers, parseArguments jsonArguments = .ok (.run i) ∧
      MatcherFile.notationOf? (Path.ofText i.matcher).suffix = some .json ∧
      MatcherFile.load .unbounded numberSeverity (.ofText i.matcher) = .ok matchers) ∧
    ¬ ∃ code, (run .unbounded numberSeverity [] jsonArguments).ending = .exit code := by
  refine ⟨exists_numberSeverity, ?_⟩
  rintro ⟨code, hcode⟩
  cases (congrArg Ending.code? hcode).symm.trans code?_numberSeverity

end LogSift.CommandLine
