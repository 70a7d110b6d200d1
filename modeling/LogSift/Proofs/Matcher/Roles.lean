import Mathlib.Data.List.GetD
import Mathlib.Data.Nat.Find
import LogSift.Proofs.Entries
import LogSift.Proofs.Matcher.Extract
import LogSift.Proofs.Matcher.Plan
import LogSift.Proofs.Matcher.Scan

/-!
# The roles of lines

To a matcher with a loop every line is a header, a detail or blank, and which of these it is shows
from the line itself (`roleAt`). A detail belongs to the nearest header before it (`headerOf`), and
its record is made of these two lines alone (`RecordAt`).

* `loopScan_scanned`: after any lines the context is that of their last header, and there is one
  record for each detail.
* `loop_records_by_role`: the records of a text are those of its details, in order.
-/

namespace LogSift.Matcher

/-- What a line is to a matcher with a loop. -/
inductive LineRole where
  | header
  | detail
  | blank
  deriving DecidableEq, Repr

/-- The role of a line. The first line is a header; of the others an empty one is blank, one that
the loop matches is a detail, and one that it does not match is a header. -/
def roleAt (loop : Regex) (lines : List (List Char)) (i : Nat) : LineRole :=
  let line := lines.getD i []
  if i = 0 then .header
  else if line = [] then .blank
  else if (loop.search line).isSome then .detail
  else .header

/-- The details among lines, in order. -/
def detailsOf (loop : Regex) (lines : List (List Char)) : List Nat :=
  (List.range lines.length).filter fun i => roleAt loop lines i = .detail

/-- The nearest header before a line. -/
def headerOf (loop : Regex) (lines : List (List Char)) (i : Nat) : Nat :=
  Nat.findGreatest (fun h => roleAt loop lines h = .header) (i - 1)

/-- The record of a detail: what the headers that match the line of its header read from that
line, and over it what the loop reads from the detail. At each key the reading that comes last
wins, and a key stands where it comes first. -/
def RecordAt (headers : List Rule) (loop : Rule) (severity : Value) (lines : List (List Char))
    (i : Nat) (record : Record) : Prop :=
  ∃ readings fields,
    headerReadings headers severity (lines.getD (headerOf loop.regex lines i) []) = .ok readings ∧
    loop.extract severity (lines.getD i []) = .ok (some fields) ∧
    record = Entries.merge (readings.foldl Entries.merge []) fields ∧
    Entries.Merged (readings ++ [fields]) record

/-- The record of a detail has no key twice. -/
theorem RecordAt.isDistinct {headers : List Rule} {loop : Rule} {severity : Value}
    {lines : List (List Char)} {i : Nat} {record : Record}
    (h : RecordAt headers loop severity lines i record) : record.IsDistinct := by
  obtain ⟨readings, fields, -, -, hrecord, -⟩ := h
  rw [hrecord, Entries.foldl_merge]
  exact (Entries.isDistinct_nil.merge _).merge _

/-! ## One line more -/

section

variable {loop : Regex} {xs : List (List Char)} {line : List Char}

theorem roleAt_snoc {i : Nat} (hi : i < xs.length) :
    roleAt loop (xs ++ [line]) i = roleAt loop xs i := by
  simp only [roleAt, List.getD_append _ _ _ _ hi]

theorem headerOf_snoc {i : Nat} (hi : i ≤ xs.length) :
    headerOf loop (xs ++ [line]) i = headerOf loop xs i := by
  unfold headerOf
  have hrole : ∀ k ≤ i - 1, roleAt loop (xs ++ [line]) k = roleAt loop xs k := by
    intro k hk
    by_cases hzero : k = 0
    · simp [roleAt, hzero]
    · exact roleAt_snoc (by omega)
  generalize i - 1 = n at hrole
  induction n with
  | zero => rfl
  | succ n ih =>
    rw [Nat.findGreatest_succ, Nat.findGreatest_succ, hrole (n + 1) (Nat.le_refl _),
      ih fun k hk => hrole k (Nat.le_succ_of_le hk)]

theorem headerOf_succ (i : Nat) :
    headerOf loop xs (i + 1) =
      if roleAt loop xs i = .header then i else headerOf loop xs i := by
  cases i with
  | zero => rfl
  | succ n => exact Nat.findGreatest_succ _

theorem headerOf_le (loop : Regex) (xs : List (List Char)) (i : Nat) :
    headerOf loop xs i ≤ i - 1 := Nat.findGreatest_le _

theorem headerOf_lt {i : Nat} (hi : 0 < i) : headerOf loop xs i < i := by
  have := headerOf_le loop xs i
  omega

theorem detailsOf_snoc :
    detailsOf loop (xs ++ [line]) = detailsOf loop xs ++
      if roleAt loop (xs ++ [line]) xs.length = .detail then [xs.length] else [] := by
  have hold : (List.range xs.length).filter
      (fun i => roleAt loop (xs ++ [line]) i = .detail) = detailsOf loop xs := by
    apply List.filter_congr
    intro i hi
    rw [roleAt_snoc (List.mem_range.1 hi)]
  simp only [detailsOf, List.length_append, List.length_singleton, List.range_succ,
    List.filter_append, hold]
  congr 1
  split
  · next h => simp [h]
  · next h => simp [h]

theorem lt_length_of_mem_detailsOf {i : Nat} (h : i ∈ detailsOf loop xs) : i < xs.length :=
  List.mem_range.1 (List.mem_filter.1 h).1

/-- The role of a line after others. -/
theorem roleAt_last (hxs : xs ≠ []) :
    roleAt loop (xs ++ [line]) xs.length =
      if line = [] then .blank else if (loop.search line).isSome then .detail else .header := by
  have hlen : xs.length ≠ 0 := by simpa using hxs
  simp [roleAt, hlen]

end

theorem RecordAt.snoc {headers : List Rule} {loop : Rule} {severity : Value}
    {xs : List (List Char)} {i : Nat} {record : Record} (hi : i < xs.length)
    (h : RecordAt headers loop severity xs i record) (line : List Char) :
    RecordAt headers loop severity (xs ++ [line]) i record := by
  have hheader : headerOf loop.regex xs i < xs.length := by
    have := headerOf_le loop.regex xs i
    omega
  unfold RecordAt
  rwa [headerOf_snoc (Nat.le_of_lt hi), List.getD_append _ _ _ _ hheader,
    List.getD_append _ _ _ _ hi]

/-! ## All lines -/

/-- What a scan of lines has found: the context of the last header, and a record for each
detail. -/
structure Scanned (headers : List Rule) (loop : Rule) (severity : Value)
    (lines : List (List Char)) (context : Option Record) (records : List Record) : Prop where
  context_eq : match context with
    | none => lines = []
    | some context => lines ≠ [] ∧
        contextOf headers severity (lines.getD (headerOf loop.regex lines lines.length) []) =
          .ok context
  records_eq : List.Forall₂ (RecordAt headers loop severity lines)
    (detailsOf loop.regex lines) records

variable {headers : List Rule} {loop : Rule} {severity : Value}

/-- A step keeps what a scan has found. -/
theorem Scanned.step {xs : List (List Char)} {context next : Option Record}
    {records found : List Record} {line : List Char}
    (h : Scanned headers loop severity xs context records)
    (hstep : loopStep headers loop severity context line = .ok (next, found)) :
    Scanned headers loop severity (xs ++ [line]) next (records ++ found) := by
  have hkept : List.Forall₂ (RecordAt headers loop severity (xs ++ [line]))
      (detailsOf loop.regex xs) records := by
    refine List.forall₂_iff_zip.2 ⟨h.records_eq.length_eq, fun {i record} hmem => ?_⟩
    have hi := lt_length_of_mem_detailsOf (List.of_mem_zip hmem).1
    exact RecordAt.snoc hi (List.forall₂_zip h.records_eq hmem) line
  have hne : xs ++ [line] ≠ [] := by simp
  have hlen : (xs ++ [line]).length = xs.length + 1 := by simp
  have hlast : (xs ++ [line]).getD xs.length [] = line := by simp
  rcases loopStep_cases hstep with ⟨new, hstart, hnew, rfl, rfl⟩ | ⟨old, rfl, rfl, rfl, rfl⟩ |
    ⟨old, fields, rfl, hline, hread, rfl, rfl⟩
  · -- A header: the first line, or one that ends a run of details.
    have hrole : roleAt loop.regex (xs ++ [line]) xs.length = .header := by
      rcases hstart with rfl | ⟨hline, hread⟩
      · have hnil : xs = [] := h.context_eq
        simp [hnil, roleAt]
      · by_cases hxs : xs = []
        · simp [hxs, roleAt]
        · simp [roleAt_last hxs, hline, Rule.extract_eq_none_iff.1 hread]
    refine ⟨⟨hne, ?_⟩, ?_⟩
    · rw [hlen, headerOf_succ, if_pos hrole, hlast]
      exact hnew
    · simpa [detailsOf_snoc, hrole] using hkept
  · -- A blank line: the context stays.
    obtain ⟨hxs, hold⟩ := h.context_eq
    have hrole : roleAt loop.regex (xs ++ [([] : List Char)]) xs.length = .blank := by
      simp [roleAt_last hxs]
    refine ⟨⟨hne, ?_⟩, ?_⟩
    · rw [hlen, headerOf_succ, hrole, if_neg (by decide), headerOf_snoc (Nat.le_refl _),
        List.getD_append _ _ _ _ (headerOf_lt (List.length_pos_iff.2 hxs))]
      exact hold
    · simpa [detailsOf_snoc, hrole] using hkept
  · -- A detail: the context stays, and a record made with it comes last.
    obtain ⟨hxs, hold⟩ := h.context_eq
    have hheader : headerOf loop.regex xs xs.length < xs.length :=
      headerOf_lt (List.length_pos_iff.2 hxs)
    have hrole : roleAt loop.regex (xs ++ [line]) xs.length = .detail := by
      simp [roleAt_last hxs, hline, Rule.search_isSome_of_extract hread]
    refine ⟨⟨hne, ?_⟩, ?_⟩
    · rw [hlen, headerOf_succ, hrole, if_neg (by decide), headerOf_snoc (Nat.le_refl _),
        List.getD_append _ _ _ _ hheader]
      exact hold
    · rw [detailsOf_snoc, if_pos hrole]
      refine List.rel_append hkept (.cons ?_ .nil)
      rw [contextOf_eq] at hold
      obtain ⟨readings, hreadings, rfl⟩ := Outcome.map_eq_ok.1 hold
      refine ⟨readings, fields, ?_, ?_, rfl, ?_⟩
      · rw [headerOf_snoc (Nat.le_refl _), List.getD_append _ _ _ _ hheader]
        exact hreadings
      · rw [hlast]
        exact hread
      · have hmerged := Entries.merged_foldl (readings ++ [fields])
        rwa [List.foldl_append] at hmerged

/-- After any lines the scan has found what their roles say. -/
theorem loopScan_scanned {lines : List (List Char)} {context : Option Record}
    {records : List Record}
    (h : loopScan headers loop severity none lines = .ok (context, records)) :
    Scanned headers loop severity lines context records := by
  induction lines using List.reverseRecOn generalizing context records with
  | nil =>
    cases h
    exact ⟨rfl, .nil⟩
  | append_singleton xs line ih =>
    rw [loopScan_append] at h
    obtain ⟨⟨before, records⟩, hxs, h⟩ := Outcome.bind_eq_ok.1 h
    obtain ⟨⟨after, found⟩, hline, h⟩ := Outcome.bind_eq_ok.1 h
    cases h
    obtain ⟨⟨next, here⟩, hstep, hline⟩ := Outcome.bind_eq_ok.1 hline
    cases hline
    simpa using (ih hxs).step hstep

/-- The records of lines are those of their details. -/
theorem recordAt_of_loopRecords {lines : List (List Char)} {records : List Record}
    (h : loopRecords headers loop severity lines = .ok records) :
    List.Forall₂ (RecordAt headers loop severity lines) (detailsOf loop.regex lines) records := by
  rw [loopRecords_eq] at h
  obtain ⟨⟨context, records⟩, hscan, rfl⟩ := Outcome.map_eq_ok.1 h
  exact (loopScan_scanned hscan).records_eq

/-- **Records by role.** The records that a matcher with a loop finds in a text belong to the
details of the text, in order. -/
theorem loop_records_by_role {d : Description} {text : String} {records : List Record}
    (hmode : d.mode = .ok .loop) (h : d.records .loop text = .ok records) :
    ∃ headers loop, rulesFrom 0 d.pattern = .ok (headers ++ [loop]) ∧ headers ≠ [] ∧
      List.Forall₂ (RecordAt headers loop d.severity (Text.lines text.toList))
        (detailsOf loop.regex (Text.lines text.toList)) records := by
  obtain ⟨rules, hrules, -⟩ := Outcome.bind_eq_ok.1 h
  obtain ⟨headers, loop, rfl, hne⟩ := exists_rules hmode hrules
  refine ⟨headers, loop, hrules, hne, ?_⟩
  rw [records_loop hrules] at h
  exact recordAt_of_loopRecords h

/-- In a report with two files, the blank line gives no record and the dashes give one each. -/
theorem report_records_by_role : ∃ headers loop,
    rulesFrom 0 report.pattern = .ok (headers ++ [loop]) ∧ headers ≠ [] ∧
      List.Forall₂ (RecordAt headers loop .null (Text.lines "= a.c\n\n- x\n= b.c\n- y".toList))
        (detailsOf loop.regex (Text.lines "= a.c\n\n- x\n= b.c\n- y".toList))
        [[(.text "file", .text "a.c"), (.text "message", .text "x")],
          [(.text "file", .text "b.c"), (.text "message", .text "y")]] :=
  loop_records_by_role (d := report) (by rfl) (by decide +kernel)

end LogSift.Matcher
