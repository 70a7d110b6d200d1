import Mathlib.Algebra.GroupWithZero.Nat
import Mathlib.Data.Char
import Mathlib.Data.List.Count
import Mathlib.Data.List.Lex
import Mathlib.Data.List.Nodup
import Mathlib.Data.Prod.Basic
import LogSift.Proofs.CommandLine.JsonReport

/-!
# What summaries say

The summary of records of texts counts every record once, by its severity in lower case, and then
shows it. The code of a run says whether the summary counts an error, also where the report is in
JSON or goes to a file.

* `IsTally`: how often each item of a list occurs. `isTally_tally`: what the summary counts.
* `sortCounts_text`: counts in the order of their severities.
* `textRecord`: records of texts. `summary_textRecords`: the lines of their summary.
* `summary_accounts`: the counts, the lines, and the code of the run.
-/

namespace LogSift.CommandLine

open Matcher (Description Record)

/-- Items that are got back one by one are got back as a list. -/
theorem map_map_eq_self {α β : Type} {f : β → α} {g : α → β} {items : List α}
    (h : ∀ a ∈ items, f (g a) = a) : (items.map g).map f = items := by
  induction items with
  | nil => rfl
  | cons a items ih =>
    obtain ⟨ha, hitems⟩ := List.forall_mem_cons.1 h
    rw [List.map_cons, List.map_cons, ha, ih hitems]

/-! ## Counting -/

/-- Whether counts say of each item of a list how often it occurs, and of nothing else. -/
structure IsTally {α : Type} [DecidableEq α] (items : List α) (counts : List (α × Nat)) :
    Prop where
  distinct : (counts.map Prod.fst).Nodup
  mem_iff : ∀ s n, (s, n) ∈ counts ↔ 0 < n ∧ n = items.count s
  total : (counts.map Prod.snd).sum = items.length

namespace IsTally

variable {α β : Type} [DecidableEq α] [DecidableEq β] {items : List α} {counts : List (α × Nat)}

/-- What is counted are the items. -/
theorem mem_keys_iff (h : IsTally items counts) {s : α} :
    s ∈ counts.map Prod.fst ↔ s ∈ items := by
  constructor
  · intro hs
    obtain ⟨⟨_, n⟩, hmem, rfl⟩ := List.mem_map.1 hs
    obtain ⟨hpos, rfl⟩ := (h.mem_iff _ _).1 hmem
    exact List.count_pos_iff.1 hpos
  · intro hs
    exact List.mem_map_of_mem (f := Prod.fst)
      ((h.mem_iff s _).2 ⟨List.count_pos_iff.2 hs, rfl⟩)

theorem perm {counts' : List (α × Nat)} (h : IsTally items counts) (hperm : counts'.Perm counts) :
    IsTally items counts' where
  distinct := (hperm.map Prod.fst).nodup_iff.2 h.distinct
  mem_iff s n := hperm.mem_iff.trans (h.mem_iff s n)
  total := (hperm.map Prod.snd).sum_nat.trans h.total

/-- Items under other names have the same counts. -/
theorem of_map {f : α → β} (hf : f.Injective)
    (h : IsTally (items.map f) (counts.map (Prod.map f id))) : IsTally items counts where
  distinct := by
    have hdistinct := h.distinct
    rw [List.map_map] at hdistinct
    exact List.Nodup.of_map f (by rwa [List.map_map])
  mem_iff s n := by
    have hmem := h.mem_iff (f s) n
    rw [List.count_map_of_injective items f hf] at hmem
    rw [← hmem]
    exact (List.mem_map_of_injective (hf.prodMap Function.injective_id) (a := (s, n))).symm
  total := by
    have htotal := h.total
    rwa [List.map_map, List.length_map] at htotal

end IsTally

variable {s : Scalar} {items : List Scalar} {counts : List (Scalar × Nat)}

/-- A count more gives a severity that has been counted before one more, and counts another one once
at the end. -/
theorem keys_countOne (s : Scalar) (counts : List (Scalar × Nat)) :
    (countOne s counts).map Prod.fst = if s ∈ counts.map Prod.fst then counts.map Prod.fst
      else counts.map Prod.fst ++ [s] := by
  induction counts with
  | nil => simp [countOne]
  | cons c counts ih =>
    obtain ⟨t, m⟩ := c
    by_cases hts : t = s
    · simp [countOne, hts]
    · rw [countOne, if_neg hts, List.map_cons, ih]
      by_cases hmem : s ∈ counts.map Prod.fst
      · simp only [hmem, if_true, List.map_cons, List.mem_cons, or_true]
      · simp only [hmem, if_false, List.map_cons, List.mem_cons, Ne.symm hts, or_self,
          List.cons_append]

theorem sum_countOne (s : Scalar) (counts : List (Scalar × Nat)) :
    ((countOne s counts).map Prod.snd).sum = (counts.map Prod.snd).sum + 1 := by
  induction counts with
  | nil => rfl
  | cons c counts ih =>
    obtain ⟨t, m⟩ := c
    by_cases hts : t = s
    · simp [countOne, hts, Nat.add_right_comm]
    · simp [countOne, hts, ih, Nat.add_assoc]

theorem mem_countOne_of_ne {t : Scalar} (hts : t ≠ s) {n : Nat} :
    (t, n) ∈ countOne s counts ↔ (t, n) ∈ counts := by
  induction counts with
  | nil => simp [countOne, hts]
  | cons c counts ih =>
    obtain ⟨u, m⟩ := c
    by_cases hus : u = s
    · subst hus
      simp [countOne, hts]
    · simp [countOne, hus, ih]

theorem mem_countOne_self {n : Nat} (h : (counts.map Prod.fst).Nodup) :
    (s, n) ∈ countOne s counts ↔
      (∃ m, (s, m) ∈ counts ∧ n = m + 1) ∨ s ∉ counts.map Prod.fst ∧ n = 1 := by
  induction counts with
  | nil => simp [countOne]
  | cons c counts ih =>
    obtain ⟨u, m⟩ := c
    rw [List.map_cons, List.nodup_cons] at h
    by_cases hus : u = s
    · subst hus
      have hrest : ∀ k, (u, k) ∉ counts := fun k hk => h.1 (List.mem_map.2 ⟨(u, k), hk, rfl⟩)
      simp [countOne, hrest]
    · rw [countOne, if_neg hus, List.mem_cons, ih h.2]
      simp [Ne.symm hus]

/-- One more item, and one more count. -/
theorem IsTally.countOne (h : IsTally items counts) (s : Scalar) :
    IsTally (items ++ [s]) (countOne s counts) where
  distinct := by
    rw [keys_countOne]
    split
    · exact h.distinct
    · next hs => exact List.nodup_append'.2 ⟨h.distinct, List.nodup_singleton s, by simpa using hs⟩
  mem_iff t n := by
    by_cases hts : t = s
    · subst hts
      rw [mem_countOne_self h.distinct, h.mem_keys_iff, ← List.count_eq_zero, List.count_append,
        List.count_singleton_self]
      simp only [h.mem_iff]
      constructor
      · rintro (⟨m, ⟨-, rfl⟩, rfl⟩ | ⟨hzero, rfl⟩) <;> omega
      · rintro ⟨-, rfl⟩
        by_cases hzero : items.count t = 0
        · exact .inr ⟨hzero, by rw [hzero]⟩
        · exact .inl ⟨_, ⟨Nat.pos_of_ne_zero hzero, rfl⟩, rfl⟩
    · have hnone : [s].count t = 0 := List.count_eq_zero_of_not_mem (by simpa using hts)
      rw [mem_countOne_of_ne hts, h.mem_iff, List.count_append, hnone, Nat.add_zero]
  total := by
    rw [sum_countOne, h.total, List.length_append, List.length_singleton]

/-- The severities of the summary are counted. -/
theorem isTally_tally (items : List Scalar) : IsTally items (tally items) := by
  induction items using List.reverseRecOn with
  | nil => exact ⟨List.nodup_nil, fun s n => by simp [tally]; omega, rfl⟩
  | append_singleton items s ih =>
    have hstep : tally (items ++ [s]) = CommandLine.countOne s (tally items) := by
      simp [tally]
    rw [hstep]
    exact ih.countOne s

/-! ## Sorting -/

/-- Whether a count may come before another one: its text does not come after the other. -/
def comesFirst (a b : String × Nat) : Bool := !decide (b.1.toList < a.1.toList)

theorem eq_of_sortCounts {sorted : List (Scalar × Nat)} (h : sortCounts counts = .ok sorted) :
    sorted = counts.mergeSort fun a b => !comesBefore b.1 a.1 := by
  unfold sortCounts at h
  dsimp only at h
  split at h
  · split at h
    · cases h
    · cases h
      rfl
  · cases h
    rfl

/-- Counts of texts are sorted as texts are. -/
theorem sortCounts_text (counts : List (String × Nat)) :
    sortCounts (counts.map (Prod.map Scalar.text id)) =
      .ok ((counts.mergeSort comesFirst).map (Prod.map Scalar.text id)) := by
  have htexts : ∀ c ∈ counts.map (Prod.map Scalar.text id), ∃ s, c.1 = .text s := by
    intro c hc
    obtain ⟨⟨s, n⟩, -, rfl⟩ := List.mem_map.1 hc
    exact ⟨s, rfl⟩
  obtain ⟨sorted, hsorted⟩ := exists_sortCounts htexts
  rw [hsorted, eq_of_sortCounts hsorted]
  refine congrArg Except.ok (List.map_mergeSort fun a _ b _ => ?_).symm
  rfl

theorem increasing_mergeSort {counts : List (String × Nat)} (h : (counts.map Prod.fst).Nodup) :
    ((counts.mergeSort comesFirst).map Prod.fst).Pairwise fun s t => s.toList < t.toList := by
  have hsorted : (counts.mergeSort comesFirst).Pairwise fun a b => comesFirst a b = true := by
    refine List.pairwise_mergeSort ?_ ?_ counts
    · intro a b c hab hbc
      simp only [comesFirst, Bool.not_eq_true', decide_eq_false_iff_not, not_lt] at hab hbc ⊢
      exact hab.trans hbc
    · intro a b
      simp only [comesFirst, Bool.or_eq_true, Bool.not_eq_true', decide_eq_false_iff_not, not_lt]
      exact le_total a.1.toList b.1.toList
  have hdistinct : ((counts.mergeSort comesFirst).map Prod.fst).Nodup :=
    ((List.mergeSort_perm counts comesFirst).map Prod.fst).nodup_iff.2 h
  rw [List.Nodup, List.pairwise_map] at hdistinct
  refine List.pairwise_map.2 (hsorted.imp₂ ?_ hdistinct)
  intro a b hab hne
  simp only [comesFirst, Bool.not_eq_true', decide_eq_false_iff_not, not_lt] at hab
  exact lt_of_le_of_ne hab fun heq => hne (String.toList_inj.1 heq)

/-! ## Records of texts -/

/-- The record with these fields. -/
def textRecord (fields : List (String × String)) : Record :=
  fields.map fun e => (.text e.1, .text e.2)

/-- The severity under which a record is counted. -/
def countedSeverity (fields : List (String × String)) : String :=
  Unicode.lowerText ((fields.lookup "severity").getD "unknown")

/-- The lines for the fields that the first line for a record does not show. -/
def fieldLines (fields : List (String × String)) : List String :=
  (fields.filter fun e => e.1 ∉ knownFields).map fun e => "     " ++ e.1 ++ ": " ++ e.2

/-- The line for a severity and its count. -/
def severityLine (count : String × Nat) : String := "  " ++ count.1 ++ ": " ++ toString count.2

variable {fields : List (String × String)} {records : List (List (String × String))}

/-- The fields of a record as they are shown. -/
def shownFields (r : Record) : List (String × String) := r.map fun e => (e.1.shown, e.2.shown)

theorem textRecord_shownFields {r : Record} (h : r.all isTextEntry = true) :
    textRecord (shownFields r) = r := by
  refine map_map_eq_self fun e he => ?_
  obtain ⟨name, s, rfl⟩ := isTextEntry_iff.1 (List.all_eq_true.1 h e he)
  rfl

theorem field?_textRecord (name : String) (fields : List (String × String)) :
    Entries.field? name (textRecord fields) = (fields.lookup name).map Value.text := by
  induction fields with
  | nil => rfl
  | cons e fields ih =>
    obtain ⟨key, v⟩ := e
    change (if (Scalar.text key).sameKey (.text name) then some (Value.text v)
      else Entries.field? name (textRecord fields)) = _
    rw [Scalar.sameKey_text, ih, List.lookup_cons]
    by_cases hkey : key = name
    · simp [hkey]
    · have hbeq : (name == key) = false := by simpa using Ne.symm hkey
      simp [hkey, hbeq]

theorem severityOr_textRecord (default : String) (fields : List (String × String)) :
    severityOr default (textRecord fields) =
      .text ((fields.lookup "severity").getD default) := by
  rw [severityOr, field?_textRecord]
  cases fields.lookup "severity" with
  | none => rfl
  | some severity => rfl

theorem lowerSeverities_textRecords (records : List (List (String × String))) :
    lowerSeverities (records.map textRecord) =
      .ok ((records.map countedSeverity).map Scalar.text) := by
  induction records with
  | nil => rfl
  | cons fields records ih =>
    rw [List.map_cons, lowerSeverities, ih, severityOr_textRecord]
    rfl

/-- The lines for a record: one with its place, and one for each field of another name. -/
theorem recordLines_textRecord (fields : List (String × String)) :
    recordLines (textRecord fields) = recordLine (textRecord fields) :: fieldLines fields := by
  have hextra : ∀ name : String, isExtra (.text name) = decide (name ∉ knownFields) := by
    intro name
    rw [Bool.eq_iff_iff]
    simp only [isExtra, Scalar.sameKey_text, Bool.not_eq_true', List.any_eq_false,
      decide_eq_true_eq]
    exact ⟨fun h hmem => h name hmem rfl, fun h known hknown heq => h (heq ▸ hknown)⟩
  unfold recordLines fieldLines
  rw [textRecord, List.filter_map, List.map_map]
  simp only [Function.comp_def, hextra]
  rfl

theorem isReportable_textRecord (severity : Value) (fields : List (String × String)) :
    IsReportable severity (textRecord fields) where
  names e he := by
    obtain ⟨⟨name, s⟩, -, rfl⟩ := List.mem_map.1 he
    exact ⟨name, rfl⟩
  values e he := by
    obtain ⟨⟨name, s⟩, -, rfl⟩ := List.mem_map.1 he
    exact .inl ⟨s, rfl⟩

theorem isReportable_of_mem_textRecords {r : Record} (h : r ∈ records.map textRecord) :
    IsReportable (.text "") r := by
  obtain ⟨fields, -, rfl⟩ := List.mem_map.1 h
  exact isReportable_textRecord (.text "") fields

/-- A record is an error just if it is counted as one. -/
theorem isError_textRecord_iff :
    IsError (textRecord fields) ↔ countedSeverity fields = "error" := by
  unfold IsError countedSeverity
  rw [field?_textRecord]
  cases fields.lookup "severity" with
  | none => simp [show Unicode.lowerText "unknown" ≠ "error" by decide]
  | some severity => simp

/-! ## Summaries -/

/-- The lines of a summary with these counts. -/
def textLines (owner : String) (counts : List (String × Nat))
    (records : List (List (String × String))) : List String :=
  [ruler '=' 60, "Matcher: " ++ owner, "Diagnostics: " ++ toString records.length]
    ++ counts.map severityLine
    ++ (if records = [] then [] else [ruler '-' 40])
    ++ records.flatMap (fun fields => recordLine (textRecord fields) :: fieldLines fields)
    ++ [ruler '=' 60]

/-- Texts have counts in increasing order. -/
theorem exists_counts (items : List String) : ∃ counts, IsTally items counts ∧
    ((counts.map Prod.fst).Pairwise fun s t => s.toList < t.toList) ∧
    sortCounts (tally (items.map Scalar.text)) = .ok (counts.map (Prod.map Scalar.text id)) := by
  have htexts : ∀ c ∈ tally (items.map Scalar.text), Scalar.text c.1.shown = c.1 := by
    intro c hc
    obtain ⟨s, -, hs⟩ := List.mem_map.1 (mem_of_mem_tally hc)
    rw [← hs]
    rfl
  obtain ⟨counts, hcounts⟩ : ∃ counts : List (String × Nat),
      counts.map (Prod.map Scalar.text id) = tally (items.map Scalar.text) := by
    refine ⟨(tally (items.map Scalar.text)).map (Prod.map Scalar.shown id), ?_⟩
    exact map_map_eq_self fun c hc => Prod.ext (htexts c hc) rfl
  have htally : IsTally items counts :=
    .of_map (fun _ _ => Scalar.text.inj) (hcounts ▸ isTally_tally (items.map Scalar.text))
  refine ⟨counts.mergeSort comesFirst, htally.perm (List.mergeSort_perm counts comesFirst),
    increasing_mergeSort htally.distinct, ?_⟩
  rw [← hcounts, sortCounts_text]

/-- The summary of records of texts has the lines for their counts. -/
theorem summary_textRecords {counts : List (String × Nat)} (owner : String)
    (h : sortCounts (tally ((records.map countedSeverity).map Scalar.text)) =
      .ok (counts.map (Prod.map Scalar.text id))) :
    summary (.text owner) (records.map textRecord) =
      .ok (String.intercalate "\n" (textLines owner counts records)) := by
  have hshow : (records.map textRecord).all isShowable = true :=
    List.all_eq_true.2 fun _ hr => (isReportable_of_mem_textRecords hr).isShowable rfl
  have hlines : summaryLines (.text owner) (records.map textRecord) =
      .ok (textLines owner counts records) := by
    rw [summaryLines, lowerSeverities_textRecords, Outcome.ok_bind, h, Outcome.ok_bind, hshow]
    refine congrArg Except.ok ?_
    simp only [textLines, List.length_map, List.map_map, List.flatMap_map, recordLines_textRecord,
      List.isEmpty_iff, List.map_eq_nil_iff]
    rfl
  rw [summary, hlines]
  rfl

/-! ## Runs -/

variable {d : Directory} {settings : Settings} {m : Description} {found : List Record}

/-- A report that is no failure ends the run as the records have it, if it can be written. -/
theorem ending_deliver {text : String} (hreport : report settings.format m found = .ok text)
    (hwritten : ¬ IsUnwritten d settings m found) :
    (deliver d settings m found).ending = endingOf found := by
  unfold deliver
  rw [hreport]
  cases houtput : settings.output with
  | none => rfl
  | some name =>
    dsimp only
    cases hwrite : d.write (.ofText name) text with
    | ok d' => rfl
    | error e => exact absurd ⟨text, name, e, hreport, houtput, hwrite⟩ hwritten

/-- A report that is printed needs no file. -/
theorem not_isUnwritten_printed (h : settings.output = none) :
    ¬ IsUnwritten d settings m found := by
  rintro ⟨text, name, e, -, hname, -⟩
  cases h.symm.trans hname

/-- A report can be written where there is a place for it. -/
theorem not_isUnwritten_of_place {name : String} {path : Path} (h : settings.output = some name)
    (hplace : d.place? (.ofText name) = some path) : ¬ IsUnwritten d settings m found := by
  rintro ⟨text, name', e, -, hname, hwrite⟩
  cases h.symm.trans hname
  cases hwrite.symm.trans (Directory.write_eq_ok_iff.2 (.inl ⟨path, hplace, rfl⟩))

/-- Records of texts have no severity that could be at fault. -/
theorem not_isSeverityFault_text {s : String} {fault : Fault} :
    ¬ IsSeverityFault (.text s) found fault :=
  fun h => h.notText s rfl

theorem exists_report_textRecords (format : Format) (m : Description)
    (records : List (List (String × String))) :
    ∃ text, report format m (records.map textRecord) = .ok text := by
  cases format with
  | json => exact jsonReport_ok rfl fun _ => isReportable_of_mem_textRecords
  | summary =>
    cases hsummary : summary m.owner (records.map textRecord) with
    | ok text => exact ⟨text, hsummary⟩
    | error fault =>
      exact absurd (fault_of_summary rfl (fun _ => isReportable_of_mem_textRecords) hsummary)
        not_isSeverityFault_text

/-- Records of texts end a run with code 1 just if the severity `error` is counted. -/
theorem endingOf_textRecords (records : List (List (String × String))) :
    endingOf (records.map textRecord) =
      .exit (if "error" ∈ records.map countedSeverity then 1 else 0) := by
  have herror : (∃ r ∈ records.map textRecord, IsError r) ↔
      "error" ∈ records.map countedSeverity := by
    simp only [List.mem_map, exists_exists_and_eq_and, isError_textRecord_iff]
  rcases endingOf_cases rfl fun _ => isReportable_of_mem_textRecords with
    ⟨code, hverdict, hending⟩ | ⟨fault, hfault, -⟩
  · rw [hending]
    cases hverdict with
    | error h => rw [if_pos (herror.1 h)]
    | clean h => rw [if_neg fun hmem => (herror.2 hmem).elim fun r hr => h r hr.1 hr.2]
  · exact absurd hfault not_isSeverityFault_text

/-- The request with another format and another place for the report. -/
def Invocation.reporting (i : Invocation) (format : Format) (output : Option String) : Invocation :=
  { i with settings := { i.settings with format := format, output := output } }

/-- **Summaries.** The summary of records of texts has a line for each severity in lower case, in
increasing order, with the number of records that have it, `unknown` standing for a missing one.
These numbers come to the number of records, which has a line before them. Behind them each record
has a line with its place and a line for each field of another name. If a request finds these
records and its report can be written, the run ends with code 1 if `error` is one of the severities
in the summary, and with 0 if not, in each format and with each place for the report. -/
theorem summary_accounts (owner : String) (records : List (List (String × String))) :
    ∃ counts, IsTally (records.map countedSeverity) counts ∧
      ((counts.map Prod.fst).Pairwise fun s t => s.toList < t.toList) ∧
      summary (.text owner) (records.map textRecord) =
        .ok (String.intercalate "\n" (textLines owner counts records)) ∧
      ∀ stack d input i m format output arguments,
        (findRecords stack d input i).result = .ok (m, records.map textRecord) →
        parseArguments arguments = .ok (.run (i.reporting format output)) →
        ¬ IsUnwritten d (i.reporting format output).settings m (records.map textRecord) →
        (run stack d input arguments).ending =
          .exit (if "error" ∈ counts.map Prod.fst then 1 else 0) := by
  obtain ⟨counts, htally, hincreasing, hsorted⟩ := exists_counts (records.map countedSeverity)
  refine ⟨counts, htally, hincreasing, summary_textRecords owner hsorted, ?_⟩
  intro stack d input i m format output arguments hfound harguments hwritten
  -- Neither the format nor the place of the report has a part in finding records.
  have hsame : (findRecords stack d input (i.reporting format output)).result =
      .ok (m, records.map textRecord) := hfound
  obtain ⟨text, htext⟩ := exists_report_textRecords format m records
  rw [run_of_arguments harguments, ending_runInvocation, hsame]
  dsimp only
  rw [ending_deliver htext hwritten, endingOf_textRecords]
  simp only [htally.mem_keys_iff]

/-- A matcher whose severities are as they stand in the tool output. -/
def statedSeverity : Directory :=
  MatcherFile.withMatchers <|
    "\x7b\"owner\": \"o\", \"pattern\": [\x7b\"regexp\": \"(.+): (.+)\", "
      ++ "\"severity\": 1, \"message\": 2\x7d]\x7d"

/-- Tool output with errors in two cases. -/
def mixedCase : String := "Error: a\nnote: b\nERROR: c"

/-- The fields of its records. -/
def mixedFields : List (List (String × String)) :=
  [[("severity", "Error"), ("message", "a")], [("severity", "note"), ("message", "b")],
    [("severity", "ERROR"), ("message", "c")]]

/-- The arguments that ask for a report about it. -/
def mixedArguments : List String := ["output", mixedCase, "-m", "m.json"]

/-- The request that these arguments make. -/
def mixedRequest : Invocation := ⟨.output, mixedCase, "m.json", { matcher := some "m.json" }⟩

theorem findRecords_mixedCase : ∃ m,
    (findRecords .unbounded statedSeverity [] mixedRequest).result =
      .ok (m, mixedFields.map textRecord) := by
  have hfields : (match (findRecords .unbounded statedSeverity [] mixedRequest).result with
      | .ok (_, found) => (found.all fun r => r.all isTextEntry) &&
        decide (found.map shownFields = mixedFields)
      | .error _ => false) = true := by
    decide +kernel
  cases hfound : (findRecords .unbounded statedSeverity [] mixedRequest).result with
  | error failure => simp [hfound] at hfields
  | ok pair =>
    obtain ⟨m, found⟩ := pair
    rw [hfound] at hfields
    simp only [Bool.and_eq_true, List.all_eq_true, decide_eq_true_eq] at hfields
    obtain ⟨htexts, hshown⟩ := hfields
    have hrecords : (found.map shownFields).map textRecord = found :=
      map_map_eq_self fun r hr => textRecord_shownFields (List.all_eq_true.2 (htexts r hr))
    exact ⟨m, by rw [← hshown, hrecords]⟩

/-- Errors in two cases are counted together and end the run with code 1, with a summary on the
output and with JSON in a file. -/
theorem summary_accounts_mixedCase : ∃ counts, IsTally (mixedFields.map countedSeverity) counts ∧
    "error" ∈ counts.map Prod.fst ∧
    (run .unbounded statedSeverity [] mixedArguments).ending = .exit 1 ∧
    (run .unbounded statedSeverity []
      (mixedArguments ++ ["--format", "json", "-o", "out.txt"])).ending = .exit 1 := by
  obtain ⟨counts, htally, -, -, hruns⟩ := summary_accounts "o" mixedFields
  have herror : "error" ∈ counts.map Prod.fst := htally.mem_keys_iff.2 (by decide +kernel)
  rw [if_pos herror] at hruns
  obtain ⟨m, hfound⟩ := findRecords_mixedCase
  obtain ⟨path, hplace⟩ : ∃ path, statedSeverity.place? (.ofText "out.txt") = some path :=
    Option.isSome_iff_exists.1 (by decide +kernel)
  refine ⟨counts, htally, herror, ?_, ?_⟩
  · refine hruns _ _ _ mixedRequest m .summary none _ hfound ?_ (not_isUnwritten_printed rfl)
    exact invocation?_eq_some.1 (by decide +kernel)
  · refine hruns _ _ _ mixedRequest m .json (some "out.txt") _ hfound ?_
      (not_isUnwritten_of_place rfl hplace)
    exact invocation?_eq_some.1 (by decide +kernel)

end LogSift.CommandLine
