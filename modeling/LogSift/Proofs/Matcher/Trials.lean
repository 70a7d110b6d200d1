import LogSift.Proofs.Matcher.Extract
import LogSift.Proofs.Matcher.Plan
import LogSift.Proofs.Matcher.Scan

/-!
# Trials

A matcher tries its rules on the lines of a text in a fixed order (`trials`), which depends on the
expressions and not on the fields. What it finds depends on these trials alone.

* `error?_singleRecords`, `error?_loopRecords`: the error of a run is that of the first trial that
  has one (`Trial.fault?`).
* `singleRecords_congr`, `loopRecords_congr`: two lists of rules that read the same in every trial
  give the same records.
-/

namespace LogSift.Matcher

/-- The attempt of one rule on one line. -/
structure Trial where
  /-- The place of the rule among the rules. -/
  position : Nat
  line : List Char
  deriving DecidableEq, Repr

/-- A number of headers, each tried on the same line. -/
def headerTrials (count : Nat) (line : List Char) : List Trial :=
  (List.range count).map fun i => ⟨i, line⟩

/-- The trials on a line after the first one. An empty line has none; any other is tried with the
loop, which comes after the headers, and then with the headers if the loop does not match it. -/
def lineTrials (loop : Regex) (count : Nat) (line : List Char) : List Trial :=
  if line = [] then []
  else ⟨count, line⟩ :: if (loop.search line).isSome then [] else headerTrials count line

/-- The trials of a number of headers and a loop. The first line is tried with the headers only. -/
def loopTrials (loop : Regex) (count : Nat) : List (List Char) → List Trial
  | [] => []
  | first :: rest => headerTrials count first ++ rest.flatMap (lineTrials loop count)

/-- The trials of rules on lines, in order. -/
def trials (mode : Mode) (rules : List Rule) (lines : List (List Char)) : List Trial :=
  match mode with
  | .single => lines.map fun line => ⟨0, line⟩
  | .loop => match rules.getLast? with
    | none => []
    | some loop => loopTrials loop.regex (rules.length - 1) lines

theorem line_eq_of_mem_headerTrials {count : Nat} {line : List Char} {t : Trial}
    (h : t ∈ headerTrials count line) : t.line = line := by
  obtain ⟨i, -, rfl⟩ := List.mem_map.1 h
  rfl

theorem line_eq_of_mem_lineTrials {loop : Regex} {count : Nat} {line : List Char} {t : Trial}
    (h : t ∈ lineTrials loop count line) : t.line = line := by
  unfold lineTrials at h
  split at h
  · cases h
  · rcases List.mem_cons.1 h with rfl | h
    · rfl
    · split at h
      · cases h
      · exact line_eq_of_mem_headerTrials h

/-- A trial is about one of the lines. -/
theorem line_mem_of_mem_trials {mode : Mode} {rules : List Rule} {lines : List (List Char)}
    {t : Trial} (h : t ∈ trials mode rules lines) : t.line ∈ lines := by
  unfold trials at h
  split at h
  · obtain ⟨line, hline, rfl⟩ := List.mem_map.1 h
    exact hline
  · split at h
    · cases h
    · cases lines with
      | nil => cases h
      | cons first rest =>
        rcases List.mem_append.1 h with h | h
        · rw [line_eq_of_mem_headerTrials h]
          exact List.mem_cons_self
        · obtain ⟨line, hline, h⟩ := List.mem_flatMap.1 h
          rw [line_eq_of_mem_lineTrials h]
          exact List.mem_cons_of_mem _ hline

/-- The error of a trial. -/
def Trial.fault? (rules : List Rule) (t : Trial) : Option Error :=
  rules[t.position]?.bind (·.fault? t.line)

/-- What a trial reads. -/
def Trial.read? (rules : List Rule) (severity : Value) (t : Trial) :
    Option (Except Error (Option Record)) :=
  rules[t.position]?.map (·.extract severity t.line)

/-! ## A single rule -/

theorem error?_singleRecords {rule : Rule} (hshow : AreShowable rule.fields) (severity : Value)
    (lines : List (List Char)) :
    Outcome.error? (singleRecords rule severity lines) =
      (trials .single [rule] lines).findSome? (Trial.fault? [rule]) := by
  induction lines with
  | nil => rfl
  | cons line lines ih =>
    have hlater (found : Option Record) : Outcome.error? (do
        return found.toList ++ (← singleRecords rule severity lines)) =
          (trials .single [rule] lines).findSome? (Trial.fault? [rule]) := by
      rw [← ih]
      simp
    have hhere : Trial.fault? [rule] ⟨0, line⟩ = rule.fault? line := rfl
    rw [singleRecords, Outcome.error?_bind fun found _ => hlater found,
      Rule.error?_extract hshow]
    simp only [trials, List.map_cons, List.findSome?_cons, hhere]
    cases rule.fault? line with
    | none => rfl
    | some e => rfl

theorem singleRecords_congr {rule rule' : Rule} {severity : Value} {lines : List (List Char)}
    (h : ∀ t ∈ trials .single [rule] lines,
      Trial.read? [rule] severity t = Trial.read? [rule'] severity t) :
    singleRecords rule severity lines = singleRecords rule' severity lines := by
  induction lines with
  | nil => rfl
  | cons line lines ih =>
    obtain ⟨hhere, hrest⟩ := List.forall_mem_cons.1 h
    have hline : rule.extract severity line = rule'.extract severity line :=
      Option.some.inj hhere
    rw [singleRecords, singleRecords, hline, ih hrest]

/-! ## Headers and a loop -/

section

variable {headers : List Rule} {loop : Rule} {severity : Value}

theorem fault?_loop (line : List Char) :
    Trial.fault? (headers ++ [loop]) ⟨headers.length, line⟩ = loop.fault? line := by
  simp [Trial.fault?]

theorem error?_headerTrials (hshow : ∀ rule ∈ headers, AreShowable rule.fields)
    (line : List Char) :
    Outcome.error? (contextOf headers severity line) =
      (headerTrials headers.length line).findSome? (Trial.fault? (headers ++ [loop])) := by
  have hrules : (List.range headers.length).map (fun i => (headers ++ [loop])[i]?) =
      headers.map some := by
    apply List.ext_getElem
    · simp
    · intro i hi _
      have hi : i < headers.length := by simpa using hi
      simp [List.getElem?_append_left hi, hi]
  have htrials : (headerTrials headers.length line).findSome? (Trial.fault? (headers ++ [loop])) =
      ((List.range headers.length).map (fun i => (headers ++ [loop])[i]?)).findSome?
        (·.bind (Rule.fault? · line)) := by
    simp only [headerTrials, List.findSome?_map]
    rfl
  rw [error?_contextOf hshow, htrials, hrules, List.findSome?_map]
  rfl

theorem error?_loopStep (hshow : ∀ rule ∈ headers ++ [loop], AreShowable rule.fields)
    (context : Record) (line : List Char) :
    Outcome.error? (loopStep headers loop severity (some context) line) =
      (lineTrials loop.regex headers.length line).findSome?
        (Trial.fault? (headers ++ [loop])) := by
  have hheaders : ∀ rule ∈ headers, AreShowable rule.fields :=
    fun rule h => hshow rule (List.mem_append_left _ h)
  by_cases hline : line = []
  · simp [loopStep, lineTrials, hline]
  · have hloop : Outcome.error? (loop.extract severity line) = loop.fault? line :=
      Rule.error?_extract (hshow loop (by simp)) severity line
    simp only [loopStep, lineTrials, hline, List.isEmpty_iff, if_false, List.findSome?_cons,
      fault?_loop, ← hloop]
    cases hread : loop.extract severity line with
    | error e => rfl
    | ok read =>
      cases read with
      | none =>
        simpa [Rule.extract_eq_none_iff.1 hread] using error?_headerTrials hheaders line
      | some fields => simp [Rule.search_isSome_of_extract hread]

theorem error?_loopScan (hshow : ∀ rule ∈ headers ++ [loop], AreShowable rule.fields)
    (context : Record) (lines : List (List Char)) :
    Outcome.error? (loopScan headers loop severity (some context) lines) =
      (lines.flatMap (lineTrials loop.regex headers.length)).findSome?
        (Trial.fault? (headers ++ [loop])) := by
  induction lines generalizing context with
  | nil => rfl
  | cons line lines ih =>
    rw [List.flatMap_cons, List.findSome?_append, ← error?_loopStep hshow context line, loopScan]
    refine Outcome.error?_bind fun step hstep => ?_
    obtain ⟨next, hnext⟩ := exists_context_of_loopStep hstep
    rw [← ih next, ← hnext]
    simp

theorem error?_loopRecords (hshow : ∀ rule ∈ headers ++ [loop], AreShowable rule.fields)
    (lines : List (List Char)) :
    Outcome.error? (loopRecords headers loop severity lines) =
      (loopTrials loop.regex headers.length lines).findSome?
        (Trial.fault? (headers ++ [loop])) := by
  have hheaders : ∀ rule ∈ headers, AreShowable rule.fields :=
    fun rule h => hshow rule (List.mem_append_left _ h)
  cases lines with
  | nil => rw [loopRecords]; rfl
  | cons first rest =>
    rw [loopRecords_eq, scanRecords_start, loopTrials, List.findSome?_append,
      ← error?_headerTrials hheaders first]
    refine Outcome.error?_bind fun context _ => ?_
    rw [scanRecords, Outcome.error?_map, error?_loopScan hshow]

/-! ## Same readings -/

variable {headers' : List Rule} {loop' : Rule}

theorem contextOf_congr (hlen : headers.length = headers'.length) {line : List Char}
    (h : ∀ t ∈ headerTrials headers.length line,
      Trial.read? (headers ++ [loop]) severity t = Trial.read? (headers' ++ [loop']) severity t) :
    contextOf headers severity line = contextOf headers' severity line := by
  have hread : headers.map (Rule.extract · severity line) =
      headers'.map (Rule.extract · severity line) := by
    apply List.ext_getElem (by simp [hlen])
    intro i hi hi'
    have hi : i < headers.length := by simpa using hi
    have hi' : i < headers'.length := by simpa using hi'
    have := h ⟨i, line⟩ (List.mem_map.2 ⟨i, List.mem_range.2 hi, rfl⟩)
    simpa [Trial.read?, List.getElem?_append_left, hi, hi'] using this
  have hmapM (rules : List Rule) : rules.mapM (Rule.extract · severity line) =
      (rules.map (Rule.extract · severity line)).mapM id := by
    simp [List.mapM_map]
  rw [contextOf_eq, contextOf_eq, headerReadings, headerReadings, hmapM, hread, ← hmapM]

theorem loopStep_congr (hlen : headers.length = headers'.length) {context : Record}
    {line : List Char}
    (h : ∀ t ∈ lineTrials loop.regex headers.length line,
      Trial.read? (headers ++ [loop]) severity t = Trial.read? (headers' ++ [loop']) severity t) :
    loopStep headers loop severity (some context) line =
      loopStep headers' loop' severity (some context) line := by
  by_cases hline : line = []
  · simp [loopStep, hline]
  · simp only [lineTrials, hline, if_false, List.forall_mem_cons] at h
    obtain ⟨hhere, hheaders⟩ := h
    have hloop : loop.extract severity line = loop'.extract severity line := by
      simpa [Trial.read?, hlen] using hhere
    simp only [loopStep, List.isEmpty_iff, hline, if_false, ← hloop]
    cases hread : loop.extract severity line with
    | error e => rfl
    | ok read =>
      cases read with
      | some fields => rfl
      | none =>
        rw [Rule.extract_eq_none_iff.1 hread] at hheaders
        simp only [Outcome.ok_bind]
        rw [contextOf_congr hlen hheaders]

theorem loopScan_congr (hlen : headers.length = headers'.length) {context : Record}
    {lines : List (List Char)}
    (h : ∀ t ∈ lines.flatMap (lineTrials loop.regex headers.length),
      Trial.read? (headers ++ [loop]) severity t = Trial.read? (headers' ++ [loop']) severity t) :
    loopScan headers loop severity (some context) lines =
      loopScan headers' loop' severity (some context) lines := by
  induction lines generalizing context with
  | nil => rfl
  | cons line lines ih =>
    rw [List.flatMap_cons, List.forall_mem_append] at h
    simp only [loopScan, loopStep_congr hlen h.1]
    cases hstep : loopStep headers' loop' severity (some context) line with
    | error e => rfl
    | ok step =>
      obtain ⟨next, hnext⟩ := exists_context_of_loopStep hstep
      simp only [Outcome.ok_bind, hnext, ih h.2]

theorem loopRecords_congr (hlen : headers.length = headers'.length) {lines : List (List Char)}
    (h : ∀ t ∈ loopTrials loop.regex headers.length lines,
      Trial.read? (headers ++ [loop]) severity t = Trial.read? (headers' ++ [loop']) severity t) :
    loopRecords headers loop severity lines = loopRecords headers' loop' severity lines := by
  cases lines with
  | nil => rw [loopRecords, loopRecords]
  | cons first rest =>
    rw [loopRecords_eq, loopRecords_eq, scanRecords_start, scanRecords_start,
      contextOf_congr hlen fun t ht => h t (List.mem_append_left _ ht)]
    congr 1
    funext context
    rw [scanRecords, scanRecords, loopScan_congr hlen fun t ht => h t (List.mem_append_right _ ht)]

end

end LogSift.Matcher
