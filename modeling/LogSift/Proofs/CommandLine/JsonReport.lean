import LogSift.Proofs.CommandLine.Delivery
import LogSift.Proofs.JsonRoundTrip
import LogSift.Proofs.MatcherFile.Keys
import LogSift.Proofs.Text.Utf8

/-!
# Reports in JSON

The records of which all keys and values are texts are read from their report as they were found.

* `findRecords_eq_ok_iff`: the records of a request.
* `read_jsonReport`: the text of a report gives the records, also with a line feed behind it.
* `IsReadBack`: whether what a run leaves behind gives records, on the output or in a file.
* `run_json`: what a run with a report in JSON leaves behind gives the records.
-/

namespace LogSift.CommandLine

open Matcher (Description Record sift)

variable {stack : MatcherFile.Stack} {d : Directory} {input : List UInt8} {i : Invocation}
  {m : Description} {records : List Record} {text : String}

/-- Whether the key and the value of an entry are texts. -/
def isTextEntry : Scalar × Value → Bool
  | (.text _, .text _) => true
  | _ => false

theorem isTextEntry_iff {e : Scalar × Value} :
    isTextEntry e = true ↔ ∃ name s, e = (.text name, .text s) := by
  unfold isTextEntry
  split
  · simp
  · next hother =>
    simp only [Bool.false_eq_true, false_iff]
    rintro ⟨name, s, rfl⟩
    exact hother name s rfl

/-! ## Reports -/

theorem isTextual_records (hdistinct : ∀ r ∈ records, r.IsDistinct)
    (htexts : ∀ r ∈ records, r.all isTextEntry = true) :
    (Value.list (records.map .map)).IsTextual := by
  refine .list fun v hv => ?_
  obtain ⟨r, hr, rfl⟩ := List.mem_map.1 hv
  have hentry : ∀ e ∈ r, ∃ name s, e = (.text name, .text s) := fun e he =>
    isTextEntry_iff.1 (List.all_eq_true.1 (htexts r hr) e he)
  refine .map (hdistinct r hr) (fun e he => ?_) fun e he => ?_
  · obtain ⟨name, s, rfl⟩ := hentry e he
    exact ⟨name, rfl⟩
  · obtain ⟨name, s, rfl⟩ := hentry e he
    exact .text s

theorem jsonReport_eq_ok_iff :
    jsonReport records = .ok text ↔ Json.print (.list (records.map .map)) = .ok text := by
  unfold jsonReport
  split
  · next h => simp [h]
  · next h => simp [h]

/-! ## Files -/

/-- A file with a text without returns is read as this text. -/
theorem readText_of_read {p : Path} (hread : d.read p = .ok (Text.Utf8.encode text))
    (hreturn : '\r' ∉ text.toList) : MatcherFile.readText d p = .ok text := by
  unfold MatcherFile.readText
  rw [hread]
  dsimp only
  rw [Text.Utf8.decode_encode]
  dsimp only
  rw [Text.unifyNewlines_eq_self_iff.2 hreturn, String.ofList_toList]

/-! ## Runs -/

/-- The records of a request are those that the matcher which is selected finds. -/
theorem findRecords_eq_ok_iff : (findRecords stack d input i).result = .ok (m, records) ↔
    ∃ matchers, MatcherFile.load stack d (.ofText i.matcher) = .ok matchers ∧
      Finds d input i matchers m records := by
  rw [findRecords_result]
  constructor
  · intro h
    obtain ⟨matchers, hload, h⟩ := Outcome.bind_eq_ok.1 h
    obtain ⟨m', hselect, h⟩ := Outcome.bind_eq_ok.1 h
    obtain ⟨text, htext, h⟩ := Outcome.bind_eq_ok.1 h
    obtain ⟨records', hsift, h⟩ := Outcome.bind_eq_ok.1 h
    cases h
    exact ⟨matchers, Outcome.mapError_eq_ok.1 hload, Outcome.mapError_eq_ok.1 hselect, text, htext,
      Outcome.mapError_eq_ok.1 hsift⟩
  · rintro ⟨matchers, hload, hselect, text, htext, hsift⟩
    simp only [hload, hselect, htext, hsift, Outcome.mapError_ok, Outcome.ok_bind]
    rfl

/-- Whether records can be read from what a run leaves behind: from the output, or from the file
that is asked for. -/
def IsReadBack (d : Directory) (records : List Record) (o : Outcome) : Option String → Prop
  | none => Json.read o.output = .ok (.list (records.map .map))
  | some name => ∀ path, d.place? (.ofText name) = some path →
    ∃ text, MatcherFile.readText o.directory (.ofText name) = .ok text ∧
      Json.read text = .ok (.list (records.map .map))

theorem isReadBack_of_isDelivered {name : Option String} {o : Outcome}
    (hdistinct : ∀ r ∈ records, r.IsDistinct)
    (htexts : ∀ r ∈ records, r.all isTextEntry = true) (hreport : jsonReport records = .ok text)
    (h : IsDelivered d text name o) : IsReadBack d records o name := by
  obtain ⟨hread, hline, hreturn⟩ :=
    Json.read_print (isTextual_records hdistinct htexts) (jsonReport_eq_ok_iff.1 hreport)
  cases h with
  | printed houtput _ =>
    rw [IsReadBack, houtput]
    exact hline
  | written _ _ _ hfile => exact fun _ _ => ⟨text, readText_of_read hfile hreturn, hread⟩
  | discarded _ hnull _ =>
    intro path hplace
    rw [Directory.place?, hnull] at hplace
    cases hplace

/-- No record of a request has a key twice. -/
theorem isDistinct_of_finds {matchers : List Description}
    (hload : MatcherFile.load stack d (.ofText i.matcher) = .ok matchers)
    (h : Finds d input i matchers m records) : ∀ r ∈ records, r.IsDistinct := by
  obtain ⟨text, -, hsift⟩ := h.found
  obtain ⟨entry, hentry, hm⟩ :=
    MatcherFile.exists_distinct_of_load hload (MatcherFile.mem_of_select h.selected)
  exact Matcher.isDistinct_of_sift hentry hm.2 hsift

/-- **Reports in JSON lose nothing.** A request with a report in JSON that ends with the code of its
records finds records in its tool output. If their keys and values are texts, they are what is read
from the report, with the same records, keys and texts in the same order. -/
theorem run_json {arguments : List String} {code : Nat}
    (harguments : parseArguments arguments = .ok (.run i)) (hformat : i.settings.format = .json)
    (hending : (run stack d input arguments).ending = .exit code) (hcode : code ≤ 1) :
    ∃ matchers m records, MatcherFile.load stack d (.ofText i.matcher) = .ok matchers ∧
      Finds d input i matchers m records ∧
      ((∀ r ∈ records, r.all isTextEntry = true) →
        IsReadBack d records (run stack d input arguments) i.settings.output) := by
  rw [run_of_arguments harguments] at hending ⊢
  obtain ⟨m, records, text, hfound, hreport, hdelivered⟩ := exists_report_of_exit hending hcode
  obtain ⟨matchers, hload, hfinds⟩ := findRecords_eq_ok_iff.1 hfound
  rw [hformat] at hreport
  exact ⟨matchers, m, records, hload, hfinds, fun htexts =>
    isReadBack_of_isDelivered (isDistinct_of_finds hload hfinds) htexts hreport hdelivered⟩

/-- A directory with a matcher whose records have the lines for their messages. -/
def wholeLines : Directory :=
  MatcherFile.withMatchers
    "\x7b\"owner\": \"o\", \"pattern\": [\x7b\"regexp\": \"(.+)\", \"message\": 1\x7d]\x7d"

/-- A text with characters that are escaped in JSON, and with others. -/
def awkwardText : String := "a\"\\\t\x01/\n\n\u2028𝄞"

/-- The arguments that ask for the records of this text in JSON. -/
def awkwardArguments : List String :=
  ["output", awkwardText, "-m", "m.json", "--format", "json"]

/-- The records of lines with all kinds of characters are read from the report. -/
theorem run_json_awkwardText : ∃ i matchers m records,
    parseArguments awkwardArguments = .ok (.run i) ∧
      MatcherFile.load .unbounded wholeLines (.ofText i.matcher) = .ok matchers ∧
      Finds wholeLines [] i matchers m records ∧
      Json.read (run .unbounded wholeLines [] awkwardArguments).output =
        .ok (.list (records.map .map)) := by
  let i : Invocation :=
    ⟨.output, awkwardText, "m.json", { matcher := some "m.json", format := .json }⟩
  have harguments : parseArguments awkwardArguments = .ok (.run i) :=
    invocation?_eq_some.1 (by decide +kernel)
  have hcode : (run .unbounded wholeLines [] awkwardArguments).ending.code? = some 0 := by
    decide +kernel
  have htexts : (match (findRecords .unbounded wholeLines [] i).result with
      | .ok (_, records) => records.all fun r => r.all isTextEntry
      | .error _ => false) = true := by
    decide +kernel
  obtain ⟨matchers, m, records, hload, hfinds, hread⟩ :=
    run_json harguments rfl (Ending.code?_eq_some.1 hcode) (Nat.zero_le 1)
  rw [findRecords_eq_ok_iff.2 ⟨matchers, hload, hfinds⟩] at htexts
  exact ⟨i, matchers, m, records, harguments, hload, hfinds, hread (List.all_eq_true.1 htexts)⟩

end LogSift.CommandLine
