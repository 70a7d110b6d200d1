import LogSift.Proofs.CommandLine.Run
import LogSift.Proofs.Text.Utf8

/-!
# Tool output from files and from the standard input

A run depends on the place of the tool output through the text that is read there and through
nothing else. A file is read with every return taken for a line feed, and the standard input as it
is.

* `readFile_stored`, `readFile_input`: the text that is read from octets in a file and on the
  standard input.
* `runInvocation_congr`: requests that differ in the place of the tool output and read the same text
  leave the same behind.
* `run_stored`: a run on a file is the run on the text of the file, with line feeds for returns, on
  the standard input. The same octets do just if there is no return in them.
-/

namespace LogSift.CommandLine

/-- The request with the standard input as the place of the tool output. -/
def Invocation.onInput (i : Invocation) : Invocation := { i with subject := "-" }

variable {stack : MatcherFile.Stack} {d : Directory} {octets : List UInt8} {text : String}
  {name : String}

theorem exists_of_read {p : Path} (h : d.read p = .ok octets) : d.exists? p = .ok true := by
  unfold Directory.read at h
  unfold Directory.exists?
  cases htarget : d.target p with
  | file f => rfl
  | null => rfl
  | folder => simp [htarget] at h
  | free path => simp [htarget] at h
  | noFolder => simp [htarget] at h
  | notFolder => simp [htarget] at h
  | nameTooLong => simp [htarget] at h
  | embeddedNull => simp [htarget] at h

/-- In a file every return is taken for a line feed. -/
theorem readFile_stored (hname : name ≠ "-") (hread : d.read (.ofText name) = .ok octets)
    (htext : Text.Utf8.decode octets = .ok text) (input : List UInt8) :
    readFile d input name = .ok (String.ofList (Text.unifyNewlines text.toList)) := by
  simp [readFile, hname, exists_of_read hread, hread, Text.Utf8.decodeLossy_of_decode htext]

/-- On the standard input the text stays as it is. -/
theorem readFile_input (htext : Text.Utf8.decode octets = .ok text) (d : Directory) :
    readFile d octets "-" = .ok text := by
  simp [readFile, readInput, htext]

/-- Requests that differ in the place of the tool output and read the same text leave the same
behind. -/
theorem runInvocation_congr {i j : Invocation} {input input' : List UInt8}
    (hmatcher : i.matcher = j.matcher) (hsettings : i.settings = j.settings)
    (h : readSubject d input i = readSubject d input' j) :
    runInvocation stack d input i = runInvocation stack d input' j := by
  have hfound : findRecords stack d input i = findRecords stack d input' j := by
    unfold findRecords
    rw [hmatcher, hsettings, h]
  unfold runInvocation
  rw [hfound, hsettings]

/-- **Files and the standard input.** A request that is about a file of text leaves the same behind
as one that is about the standard input and has there the text of the file with a line feed for
every return. With the octets of the file on the standard input the same text is read just if there
is no return in it, and then the same is left behind. -/
theorem run_stored {input : List UInt8} {arguments arguments' : List String} {i : Invocation}
    (harguments : parseArguments arguments = .ok (.run i))
    (harguments' : parseArguments arguments' = .ok (.run i.onInput))
    (hcommand : i.command = .file) (hname : i.subject ≠ "-")
    (hread : d.read (.ofText i.subject) = .ok octets)
    (htext : Text.Utf8.decode octets = .ok text) :
    run stack d input arguments =
        run stack d (Text.Utf8.encode (String.ofList (Text.unifyNewlines text.toList))) arguments' ∧
      (readSubject d input i = readSubject d octets i.onInput ↔ '\r' ∉ text.toList) ∧
      ('\r' ∉ text.toList → run stack d input arguments = run stack d octets arguments') := by
  have hfile : readSubject d input i =
      .ok (String.ofList (Text.unifyNewlines text.toList)) := by
    rw [readSubject, hcommand]
    exact readFile_stored hname hread htext input
  have hinput : ∀ {octets text}, Text.Utf8.decode octets = .ok text →
      readSubject d octets i.onInput = .ok text := by
    intro octets text htext
    rw [readSubject, Invocation.onInput, hcommand]
    exact readFile_input htext d
  have hsame : readSubject d input i = readSubject d octets i.onInput ↔ '\r' ∉ text.toList := by
    rw [hfile, hinput htext, ← Text.unifyNewlines_eq_self_iff, Except.ok.injEq,
      ← String.toList_inj, String.toList_ofList]
  have hrun : ∀ {octets}, readSubject d input i = readSubject d octets i.onInput →
      run stack d input arguments = run stack d octets arguments' := by
    intro octets h
    rw [run_of_arguments harguments, run_of_arguments harguments']
    exact runInvocation_congr rfl rfl h
  refine ⟨hrun ?_, hsame, fun hreturn => hrun (hsame.2 hreturn)⟩
  rw [hfile, hinput (Text.Utf8.decode_encode _)]

/-- A matcher for lines with an x and one more character, beside a log. -/
def beside (log : String) : Directory :=
  { files := [⟨.ofText "m.json", Text.Utf8.encode
      "\x7b\"owner\": \"o\", \"pattern\": [\x7b\"regexp\": \"^x.$\"\x7d]\x7d"⟩,
    ⟨.ofText "log.txt", Text.Utf8.encode log⟩] }

/-- The arguments that ask for the records of a place in JSON. -/
def recordsOf (place : String) : List String := ["file", place, "-m", "m.json", "--format", "json"]

theorem exists_invocation : ∃ i, parseArguments (recordsOf "log.txt") = .ok (.run i) ∧
    parseArguments (recordsOf "-") = .ok (.run i.onInput) ∧ i.command = .file ∧
    i.subject = "log.txt" := by
  have hlog : invocation? (recordsOf "log.txt") =
      some ⟨.file, "log.txt", "m.json", { matcher := some "m.json", format := .json }⟩ := by
    decide +kernel
  have hinput : invocation? (recordsOf "-") =
      some ⟨.file, "-", "m.json", { matcher := some "m.json", format := .json }⟩ := by
    decide +kernel
  exact ⟨_, invocation?_eq_some.1 hlog, invocation?_eq_some.1 hinput, rfl, rfl⟩

/-- A log with one line leaves the same behind from its file and from the standard input. -/
theorem run_stored_line : run .unbounded (beside "xy") [] (recordsOf "log.txt") =
    run .unbounded (beside "xy") (Text.Utf8.encode "xy") (recordsOf "-") := by
  obtain ⟨i, harguments, harguments', hcommand, hsubject⟩ := exists_invocation
  have hname : i.subject ≠ "-" := by
    rw [hsubject]
    decide
  have hread : (beside "xy").read (.ofText i.subject) = .ok (Text.Utf8.encode "xy") := by
    rw [hsubject]
    decide +kernel
  have htext : Text.Utf8.decode (Text.Utf8.encode "xy") = .ok "xy" := Text.Utf8.decode_encode _
  exact (run_stored harguments harguments' hcommand hname hread htext).2.2 (by decide)

/-- Of a line that ends in a return the return is the character after the x, from the standard input
and not from a file. -/
theorem run_stored_return :
    (∃ i, parseArguments (recordsOf "log.txt") = .ok (.run i) ∧
      parseArguments (recordsOf "-") = .ok (.run i.onInput) ∧ i.command = .file ∧
      i.subject ≠ "-" ∧ (beside "x\r").read (.ofText i.subject) = .ok (Text.Utf8.encode "x\r")) ∧
    Text.Utf8.decode (Text.Utf8.encode "x\r") = .ok "x\r" ∧
    (run .unbounded (beside "x\r") [] (recordsOf "log.txt")).output = "[]\n" ∧
    (run .unbounded (beside "x\r") (Text.Utf8.encode "x\r") (recordsOf "-")).output =
      "[\n  \x7b\x7d\n]\n" := by
  obtain ⟨i, harguments, harguments', hcommand, hsubject⟩ := exists_invocation
  refine ⟨⟨i, harguments, harguments', hcommand, ?_, ?_⟩, Text.Utf8.decode_encode _, ?_, ?_⟩
  · rw [hsubject]
    decide
  · rw [hsubject]
    decide +kernel
  · decide +kernel
  · decide +kernel

end LogSift.CommandLine
