import LogSift.Proofs.Matcher.Plan
import LogSift.Proofs.Matcher.Scan

/-!
# Blank lines

A matcher with a loop passes over empty lines, apart from the first line, which is a header whatever
it is. It makes no difference to it where empty lines stand behind the first line, nor how many.

* `loopScan_filter`: from a context on a scan does the same without the empty lines.
* `loopRecords_withoutBlanks`: so do the cycles of headers and details.
* `sift_blank_lines`: texts that are the same without the empty lines behind the first one.
-/

namespace LogSift.Matcher

/-- The lines without the empty ones behind the first. -/
def withoutBlanks : List (List Char) → List (List Char)
  | [] => []
  | first :: rest => first :: rest.filter fun line => !line.isEmpty

section

variable {headers : List Rule} {loop : Rule} {severity : Value}

/-- An empty line leaves the context as it is and gives no record. -/
theorem loopScan_nil_cons (context : Record) (rest : List (List Char)) :
    loopScan headers loop severity (some context) ([] :: rest) =
      loopScan headers loop severity (some context) rest := by
  cases hrest : loopScan headers loop severity (some context) rest with
  | error e => simp [loopScan, loopStep, hrest]
  | ok scan => simp [loopScan, loopStep, hrest]

/-- There is a context after every step, so that empty lines are passed over all the way. -/
theorem loopScan_filter (context : Record) (lines : List (List Char)) :
    loopScan headers loop severity (some context) (lines.filter fun line => !line.isEmpty) =
      loopScan headers loop severity (some context) lines := by
  induction lines generalizing context with
  | nil => rfl
  | cons line lines ih =>
    by_cases hline : line = []
    · subst hline
      rw [List.filter_cons_of_neg (by simp), loopScan_nil_cons, ih]
    · rw [List.filter_cons_of_pos (by simpa using hline), loopScan, loopScan]
      cases hstep : loopStep headers loop severity (some context) line with
      | error e => rfl
      | ok step =>
        obtain ⟨next, hnext⟩ := exists_context_of_loopStep hstep
        obtain ⟨after, found⟩ := step
        subst hnext
        simp only [Outcome.ok_bind, ih next]

theorem loopRecords_withoutBlanks (lines : List (List Char)) :
    loopRecords headers loop severity (withoutBlanks lines) =
      loopRecords headers loop severity lines := by
  cases lines with
  | nil => rfl
  | cons first rest =>
    rw [withoutBlanks, loopRecords_eq, loopRecords_eq, scanRecords_start, scanRecords_start]
    simp only [scanRecords, loopScan_filter]

end

theorem records_of_withoutBlanks {a b : String}
    (h : withoutBlanks (Text.lines a.toList) = withoutBlanks (Text.lines b.toList))
    (d : Description) : d.records .loop a = d.records .loop b := by
  unfold Description.records
  refine bind_congr fun rules => ?_
  cases rules.getLast? with
  | none => rfl
  | some loop =>
    dsimp only
    rw [← loopRecords_withoutBlanks (Text.lines a.toList), h, loopRecords_withoutBlanks]

/-- **Blank lines behind the first line do not matter.** A matcher that is not for single lines
finds the same records in two texts, or fails on them with the same error, if their lines are the
same without the empty ones behind the first. -/
theorem sift_blank_lines {source : Source}
    (hloop : ∀ d, source.describe = .ok d → d.mode ≠ .ok .single) {a b : String} (ha : a ≠ "")
    (hb : b ≠ "")
    (h : withoutBlanks (Text.lines a.toList) = withoutBlanks (Text.lines b.toList)) :
    sift source (.text a) = sift source (.text b) := by
  rw [sift_text source ha, sift_text source hb]
  refine bind_congr fun _ => ?_
  cases hd : source.describe with
  | error e => rfl
  | ok d =>
    cases hmode : d.mode with
    | error e => simp [hmode]
    | ok mode =>
      cases mode with
      | single => exact absurd hmode (hloop d hd)
      | loop => simp [hmode, records_of_withoutBlanks h]

/-- Blank lines behind a header, between details and at the end. -/
theorem sift_blank_lines_reportValue :
    (∀ d, (Source.value reportValue).describe = .ok d → d.mode ≠ .ok .single) ∧
    withoutBlanks (Text.lines "= a.c\n\n- x\n\n\n- y\n= b.c\n".toList) =
      withoutBlanks (Text.lines "= a.c\n- x\n- y\n\n= b.c".toList) ∧
    sift (.value reportValue) (.text "= a.c\n\n- x\n\n\n- y\n= b.c\n") =
      sift (.value reportValue) (.text "= a.c\n- x\n- y\n\n= b.c") := by
  have hloop : ∀ d, (Source.value reportValue).describe = .ok d → d.mode ≠ .ok .single := by
    intro d hd
    cases ofValue_reportValue.symm.trans hd
    exact (nomatch ·)
  have hlines : withoutBlanks (Text.lines "= a.c\n\n- x\n\n\n- y\n= b.c\n".toList) =
      withoutBlanks (Text.lines "= a.c\n- x\n- y\n\n= b.c".toList) := by decide
  exact ⟨hloop, hlines, sift_blank_lines hloop (by decide) (by decide) hlines⟩

end LogSift.Matcher
