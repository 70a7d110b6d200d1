import LogSift.Proofs.CommandLine.Run
import LogSift.Proofs.Directory

/-!
# What runs leave behind

A run that fails with code 2 prints nothing to the output and changes no file. A run that delivers
its report prints it, or leaves it in one file.

* `IsDelivered`: what a report that has been delivered leaves behind.
* `deliver_exit_two`, `isDelivered_of_deliver`: what delivering leaves behind when it fails and when
  it does not.
* `run_delivers`: the same for whole runs.
-/

namespace LogSift.CommandLine

open Matcher (Description Record)

/-- Whether a text is delivered to the output, or to the file that is asked for. It stands on the
output with a line feed, or is all that the file holds; no other file changes. -/
inductive IsDelivered (d : Directory) (text : String) : Option String → Outcome → Prop
  | printed {o : Outcome} : o.output = text ++ "\n" → o.directory = d → IsDelivered d text none o
  | written {o : Outcome} {name : String} {path : Path} : o.output = "" →
    d.place? (.ofText name) = some path →
    d.DiffersAt o.directory path (Text.Utf8.encode text) →
    o.directory.read (.ofText name) = .ok (Text.Utf8.encode text) →
    IsDelivered d text (some name) o
  /-- The device that takes everything does not keep it. -/
  | discarded {o : Outcome} {name : String} : o.output = "" →
    d.target (.ofText name) = .null → o.directory = d → IsDelivered d text (some name) o

/-- The request with the output as the place of the report. -/
def Invocation.printed (i : Invocation) : Invocation :=
  { i with settings := { i.settings with output := none } }

variable {stack : MatcherFile.Stack} {d : Directory} {input : List UInt8} {i : Invocation}
  {settings : Settings} {m : Description} {records : List Record} {text : String} {code : Nat}

theorem IsDelivered.congr {name : Option String} {o o' : Outcome} (h : IsDelivered d text name o)
    (houtput : o'.output = o.output) (hdirectory : o'.directory = o.directory) :
    IsDelivered d text name o' := by
  cases h with
  | printed hprinted hsame => exact .printed (houtput.trans hprinted) (hdirectory.trans hsame)
  | written hempty hplace hdiffers hread =>
    refine .written (houtput.trans hempty) hplace ?_ ?_
    · rwa [hdirectory]
    · rwa [hdirectory]
  | discarded hempty hnull hsame =>
    exact .discarded (houtput.trans hempty) hnull (hdirectory.trans hsame)

/-! ## Delivering -/

theorem le_one_of_endingOf (h : endingOf records = .exit code) : code ≤ 1 := by
  unfold endingOf at h
  split at h
  · cases h
    exact Nat.le_refl 1
  · cases h
    exact Nat.zero_le 1
  · cases h

/-- A report that cannot be written leaves nothing behind. -/
theorem deliver_exit_two (h : (deliver d settings m records).ending = .exit 2) :
    (deliver d settings m records).output = "" ∧
      (deliver d settings m records).directory = d := by
  unfold deliver at h ⊢
  cases hreport : report settings.format m records with
  | error fault => exact ⟨rfl, rfl⟩
  | ok text =>
    rw [hreport] at h
    cases houtput : settings.output with
    | none =>
      rw [houtput] at h
      have hcode := le_one_of_endingOf h
      omega
    | some name =>
      rw [houtput] at h
      dsimp only at h ⊢
      cases hwrite : d.write (.ofText name) text with
      | error e =>
        cases hfailure : Failure.ofSystem e with
        | reported message => simp [hfailure]
        | escaped e' => simp [hfailure]
      | ok d' =>
        rw [hwrite] at h
        have hcode := le_one_of_endingOf h
        omega

theorem isDelivered_of_deliver (hreport : report settings.format m records = .ok text)
    (hending : (deliver d settings m records).ending = .exit code) (hcode : code ≤ 1) :
    IsDelivered d text settings.output (deliver d settings m records) := by
  unfold deliver at hending ⊢
  rw [hreport] at hending ⊢
  cases houtput : settings.output with
  | none => exact .printed rfl rfl
  | some name =>
    rw [houtput] at hending
    dsimp only at hending ⊢
    cases hwrite : d.write (.ofText name) text with
    | error e =>
      rw [hwrite] at hending
      cases hfailure : Failure.ofSystem e with
      | reported message =>
        simp only [hfailure, Ending.exit.injEq] at hending
        omega
      | escaped e' => simp [hfailure] at hending
    | ok d' =>
      rcases Directory.write_eq_ok_iff.1 hwrite with ⟨path, hplace, rfl⟩ | ⟨hnull, rfl⟩
      · exact .written rfl hplace (Directory.differsAt_put d path _)
          (Directory.read_put hplace _)
      · exact .discarded rfl hnull rfl

/-! ## Requests -/

/-- A request that finds records leaves behind what delivering them does. -/
theorem runInvocation_of_found (hfound : (findRecords stack d input i).result = .ok (m, records)) :
    (runInvocation stack d input i).output = (deliver d i.settings m records).output ∧
      (runInvocation stack d input i).directory = (deliver d i.settings m records).directory := by
  unfold runInvocation
  dsimp only
  rw [hfound]
  exact ⟨rfl, rfl⟩

/-- A request that fails before there are records leaves nothing behind. -/
theorem runInvocation_of_failure {failure : Failure}
    (hfound : (findRecords stack d input i).result = .error failure) :
    (runInvocation stack d input i).output = "" ∧
      (runInvocation stack d input i).directory = d := by
  unfold runInvocation
  dsimp only
  rw [hfound]
  cases failure with
  | reported message => exact ⟨rfl, rfl⟩
  | escaped e => exact ⟨rfl, rfl⟩

theorem runInvocation_exit_two (h : (runInvocation stack d input i).ending = .exit 2) :
    (runInvocation stack d input i).output = "" ∧
      (runInvocation stack d input i).directory = d := by
  rw [ending_runInvocation] at h
  cases hfound : (findRecords stack d input i).result with
  | error failure => exact runInvocation_of_failure hfound
  | ok found =>
    obtain ⟨m, records⟩ := found
    obtain ⟨houtput, hdirectory⟩ := runInvocation_of_found hfound
    rw [hfound] at h
    rw [houtput, hdirectory]
    exact deliver_exit_two h

/-- A request that ends with the code of its records has a report, which is delivered. -/
theorem exists_report_of_exit (h : (runInvocation stack d input i).ending = .exit code)
    (hcode : code ≤ 1) : ∃ m records text, (findRecords stack d input i).result = .ok (m, records) ∧
      report i.settings.format m records = .ok text ∧
      IsDelivered d text i.settings.output (runInvocation stack d input i) := by
  rw [ending_runInvocation] at h
  cases hfound : (findRecords stack d input i).result with
  | error failure =>
    rw [hfound] at h
    cases failure with
    | reported message =>
      cases h
      omega
    | escaped e => cases h
  | ok found =>
    obtain ⟨m, records⟩ := found
    rw [hfound] at h
    dsimp only at h
    cases hreport : report i.settings.format m records with
    | error fault => simp [deliver, hreport] at h
    | ok text =>
      have hdelivered := isDelivered_of_deliver hreport h hcode
      obtain ⟨houtput, hdirectory⟩ := runInvocation_of_found hfound
      exact ⟨m, records, text, rfl, hreport, hdelivered.congr houtput hdirectory⟩

/-- Without a file the report is printed. -/
theorem output_printed (hfound : (findRecords stack d input i).result = .ok (m, records))
    (hreport : report i.settings.format m records = .ok text) :
    (runInvocation stack d input i.printed).output = text ++ "\n" := by
  -- The place of the report has no part in finding records.
  have hprinted : (findRecords stack d input i.printed).result = .ok (m, records) := hfound
  rw [(runInvocation_of_found hprinted).1]
  simp [deliver, Invocation.printed, hreport]

/-- **Delivering.** A run that ends with code 2 leaves nothing on the output and every file as it
was. A request that ends with another code has a report, and leaves it on the output or in the file
that is asked for, and nothing else; this is the report that the same request prints when no file is
asked for. -/
theorem run_delivers (stack : MatcherFile.Stack) (d : Directory) (input : List UInt8)
    (arguments : List String) :
    ((run stack d input arguments).ending = .exit 2 →
      (run stack d input arguments).output = "" ∧ (run stack d input arguments).directory = d) ∧
    ∀ i code, parseArguments arguments = .ok (.run i) →
      (run stack d input arguments).ending = .exit code → code ≤ 1 →
      ∃ m records text, (findRecords stack d input i).result = .ok (m, records) ∧
        report i.settings.format m records = .ok text ∧
        IsDelivered d text i.settings.output (run stack d input arguments) ∧
        (runInvocation stack d input i.printed).output = text ++ "\n" := by
  constructor
  · intro h
    unfold run at h ⊢
    split at h
    · exact runInvocation_exit_two h
    · cases h
    · cases h
    · exact ⟨rfl, rfl⟩
  · intro i code harguments hending hcode
    rw [run_of_arguments harguments] at hending ⊢
    obtain ⟨m, records, text, hfound, hreport, hdelivered⟩ := exists_report_of_exit hending hcode
    exact ⟨m, records, text, hfound, hreport, hdelivered, output_printed hfound hreport⟩

/-- A directory with a matcher for lines with an x. -/
def matcherAlone : Directory :=
  MatcherFile.withMatchers "\x7b\"owner\": \"o\", \"pattern\": [\x7b\"regexp\": \"x\"\x7d]\x7d"

/-- The arguments that ask for the records of a text in a file. -/
def reportOf (text : String) : List String := ["output", text, "-m", "m.json", "-o", "out.txt"]

/-- The report about a text is in the file that is asked for, and about no text there is none. -/
theorem run_delivers_reportOf :
    ((run .unbounded matcherAlone [] (reportOf "")).output = "" ∧
      (run .unbounded matcherAlone [] (reportOf "")).directory = matcherAlone) ∧
    ∃ text, IsDelivered matcherAlone text (some "out.txt")
      (run .unbounded matcherAlone [] (reportOf "x")) := by
  have hfailed : (run .unbounded matcherAlone [] (reportOf "")).ending.code? = some 2 := by
    decide +kernel
  have hcode : (run .unbounded matcherAlone [] (reportOf "x")).ending.code? = some 0 := by
    decide +kernel
  have harguments : invocation? (reportOf "x") =
      some ⟨.output, "x", "m.json", { matcher := some "m.json", output := some "out.txt" }⟩ := by
    decide +kernel
  refine ⟨(run_delivers _ _ [] _).1 (Ending.code?_eq_some.1 hfailed), ?_⟩
  obtain ⟨m, records, text, -, -, hdelivered, -⟩ :=
    (run_delivers .unbounded matcherAlone [] _).2 _ 0 (invocation?_eq_some.1 harguments)
      (Ending.code?_eq_some.1 hcode) (Nat.zero_le 1)
  exact ⟨text, hdelivered⟩

end LogSift.CommandLine
