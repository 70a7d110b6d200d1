import LogSift.Proofs.Matcher.Extract
import LogSift.Proofs.Matcher.Plan
import LogSift.Proofs.Matcher.Scan

/-!
# Cutting a log in two

* `sift_append`: where a line ends a log can be cut, and what is found in it is what is found in
  the two parts. With a loop the second part has to begin with a header (`OpensWithHeader`).
* `sift_goesOn`: what is found in the beginning of a log stays as it is, whatever comes after it.
-/

namespace LogSift.Matcher

/-- Whether the first line of a text is a header wherever the text stands: it is not empty, and
the expression of the last sub-pattern does not match it. -/
def OpensWithHeader (d : Description) (text : String) : Prop :=
  ∃ line rest, Text.lines text.toList = line :: rest ∧ line ≠ [] ∧
    ∀ s regex, d.pattern.getLast? = some s → Regex.ofText s.regexp = .ok regex →
      regex.search line = none

theorem append_line_ne_empty (a b : String) : a ++ "\n" ++ b ≠ "" := by
  intro h
  have := congrArg String.length h
  simp at this

/-! ## Records of a description -/

theorem records_append {d : Description} {mode : Mode} {b : String} (hmode : d.mode = .ok mode)
    (hcut : mode = .loop → OpensWithHeader d b) (a : String) :
    d.records mode (a ++ "\n" ++ b) = do
      return (← d.records mode a) ++ (← d.records mode b) := by
  cases mode with
  | single =>
    obtain ⟨s, hs⟩ := mode_eq_single_iff.1 hmode
    simp only [records_single hs, Text.lines_append]
    exact Outcome.bind_append fun regex _ => singleRecords_append _ _ _ _
  | loop =>
    cases hrules : rulesFrom 0 d.pattern with
    | error e => simp [Description.records, hrules]
    | ok rules =>
      obtain ⟨headers, loop, rfl, -⟩ := exists_rules hmode hrules
      obtain ⟨line, rest, hb, hne, hnone⟩ := hcut rfl
      obtain ⟨front, s, hpattern, -⟩ := mode_eq_loop_iff.1 hmode
      have hlast : d.pattern.getLast? = some s := by simp [hpattern]
      have hsearch := hnone s loop.regex hlast (last_isReadyAs hrules hlast).1
      simp only [records_loop hrules, loopRecords_eq, Text.lines_append, hb]
      exact scanRecords_append hne (Rule.extract_of_search_none hsearch d.severity)

theorem records_goesOn {d : Description} {mode : Mode} (hmode : d.mode = .ok mode)
    (a b : String) :
    Outcome.GoesOn (d.records mode a) (d.records mode (a ++ "\n" ++ b)) := by
  cases mode with
  | single =>
    obtain ⟨s, hs⟩ := mode_eq_single_iff.1 hmode
    simp only [records_single hs, Text.lines_append]
    exact .bind fun regex _ => singleRecords_goesOn _ _ _ _
  | loop =>
    cases hrules : rulesFrom 0 d.pattern with
    | error e =>
      have hfail (text : String) : d.records .loop text = .error e := by
        simp [Description.records, hrules]
      exact .of_error (hfail _) (hfail _)
    | ok rules =>
      obtain ⟨headers, loop, rfl, -⟩ := exists_rules hmode hrules
      simp only [records_loop hrules, loopRecords_eq, Text.lines_append]
      exact scanRecords_goesOn _ _ _

/-! ## Matchers -/

/-- **A log is found in parts.** What a matcher finds in two logs one after the other is what it
finds in each of them. The first part that has an error decides the error. -/
theorem sift_append (source : Source) {a b : String} (ha : a ≠ "") (hb : b ≠ "")
    (hcut : ∀ d, source.describe = .ok d → d.mode = .ok .loop → OpensWithHeader d b) :
    sift source (.text (a ++ "\n" ++ b)) = do
      let found ← sift source (.text a)
      let more ← sift source (.text b)
      return found ++ more := by
  rw [sift_text source ha, sift_text source hb, sift_text source (append_line_ne_empty a b)]
  refine Outcome.bind_append fun _ _ => Outcome.bind_append fun d hd =>
    Outcome.bind_append fun mode hmode => ?_
  exact records_append hmode (fun hloop => hcut d hd (hloop ▸ hmode)) a

/-- The second part of a report begins with a file. -/
theorem sift_append_report :
    sift (.value reportValue) (.text ("= a.c\n- x" ++ "\n" ++ "= b.c\n- y")) = do
      let found ← sift (.value reportValue) (.text "= a.c\n- x")
      let more ← sift (.value reportValue) (.text "= b.c\n- y")
      return found ++ more := by
  refine sift_append (.value reportValue) (by decide) (by decide) fun d hd _ => ?_
  have hreport : d = report := Except.ok.inj (hd.symm.trans ofValue_reportValue)
  subst hreport
  refine ⟨"= b.c".toList, ["- y".toList], by decide, by decide, fun s regex hs hregex => ?_⟩
  cases hs
  have hregex : Regex.ofText "^- (.+)" = .ok regex := hregex
  have hnone : (Regex.ofText "^- (.+)").toOption.bind (·.search "= b.c".toList) = none := by
    decide +kernel
  rwa [hregex] at hnone

/-- **More text does not revise.** If a matcher finds records in a log with more lines, those that
it finds in the log alone come first among them; an error in the log alone stays. -/
theorem sift_goesOn (source : Source) {a : String} (ha : a ≠ "") (b : String) :
    (∀ records, sift source (.text (a ++ "\n" ++ b)) = .ok records →
      ∃ first, sift source (.text a) = .ok first ∧ first <+: records) ∧
    (∀ e, sift source (.text a) = .error e →
      sift source (.text (a ++ "\n" ++ b)) = .error e) := by
  have h : Outcome.GoesOn (sift source (.text a)) (sift source (.text (a ++ "\n" ++ b))) := by
    rw [sift_text source ha, sift_text source (append_line_ne_empty a b)]
    exact .bind fun _ _ => .bind fun d _ => .bind fun mode hmode => records_goesOn hmode a b
  exact ⟨h.ok, h.error⟩

/-- What is said about a file stays, whatever else is said about it. -/
theorem sift_goesOn_report :
    (∀ records,
      sift (.value reportValue) (.text ("= a.c\n- x" ++ "\n" ++ "\n- y")) = .ok records →
      ∃ first, sift (.value reportValue) (.text "= a.c\n- x") = .ok first ∧ first <+: records) ∧
    (∀ e, sift (.value reportValue) (.text "= a.c\n- x") = .error e →
      sift (.value reportValue) (.text ("= a.c\n- x" ++ "\n" ++ "\n- y")) = .error e) :=
  sift_goesOn (.value reportValue) (by decide) "\n- y"

end LogSift.Matcher
