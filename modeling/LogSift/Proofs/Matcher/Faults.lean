import LogSift.Proofs.Matcher.Build
import LogSift.Proofs.Matcher.Roles
import LogSift.Proofs.Matcher.Trials

/-!
# Which error a text gives

* `error?_records`: a description fails on a text with the error of the first trial that has one.
* `areAllRecords_of_records`: if it does not fail it gives the records of all its trials
  (`AreAllRecords`).
* `records_withFields`: the fields of a sub-pattern that matches in none of its trials do not
  matter.
* `sift_first_fault`: all three for a description that has been built from a JSON value.
-/

namespace LogSift.Matcher

/-! ## Records of a description -/

theorem exists_rule {d : Description} {rules : List Rule} (hmode : d.mode = .ok .single)
    (h : rulesFrom 0 d.pattern = .ok rules) :
    ∃ rule, rules = [rule] ∧ ∀ text, d.records .single text =
      singleRecords rule d.severity (Text.lines text.toList) := by
  obtain ⟨s, hs⟩ := mode_eq_single_iff.1 hmode
  rw [hs] at h
  obtain ⟨regex, hregex, h⟩ := Outcome.bind_eq_ok.1 h
  cases h
  refine ⟨⟨regex, s.fields⟩, rfl, fun text => ?_⟩
  rw [records_single hs, hregex]
  rfl

theorem trials_loop (headers : List Rule) (loop : Rule) (lines : List (List Char)) :
    trials .loop (headers ++ [loop]) lines = loopTrials loop.regex headers.length lines := by
  simp [trials]

theorem error?_records {d : Description} {mode : Mode} {rules : List Rule}
    (hmode : d.mode = .ok mode) (hrules : rulesFrom 0 d.pattern = .ok rules)
    (hshow : ∀ rule ∈ rules, AreShowable rule.fields) (text : String) :
    Outcome.error? (d.records mode text) =
      (trials mode rules (Text.lines text.toList)).findSome? (Trial.fault? rules) := by
  cases mode with
  | single =>
    obtain ⟨rule, rfl, hrecords⟩ := exists_rule hmode hrules
    rw [hrecords]
    exact error?_singleRecords (hshow rule (List.mem_singleton_self rule)) _ _
  | loop =>
    obtain ⟨headers, loop, rfl, -⟩ := exists_rules hmode hrules
    rw [records_loop hrules, trials_loop]
    exact error?_loopRecords hshow _

/-! ## All records -/

/-- Whether records are all that rules find in lines: those of the lines that a single rule
matches, or those of the details of a loop. -/
def AreAllRecords (mode : Mode) (rules : List Rule) (severity : Value) (lines : List (List Char))
    (records : List Record) : Prop :=
  match mode with
  | .single => ∃ rule, rules = [rule] ∧
    List.Forall₂ (fun line record => rule.extract severity line = .ok (some record))
      (lines.filter fun line => (rule.regex.search line).isSome) records
  | .loop => ∃ headers loop, rules = headers ++ [loop] ∧
    List.Forall₂ (RecordAt headers loop severity lines) (detailsOf loop.regex lines) records

theorem singleRecords_eq (rule : Rule) (severity : Value) (lines : List (List Char)) :
    singleRecords rule severity lines =
      List.reduceOption <$> lines.mapM fun line => rule.extract severity line := by
  induction lines with
  | nil => rfl
  | cons line lines ih =>
    rw [singleRecords, ih]
    cases hfound : rule.extract severity line with
    | error e => simp [hfound]
    | ok found =>
      cases found with
      | none => simp [hfound, List.reduceOption_cons_of_none]
      | some record => simp [hfound, List.reduceOption_cons_of_some]

theorem areAllRecords_of_records {d : Description} {mode : Mode} {rules : List Rule}
    {text : String} {records : List Record} (hmode : d.mode = .ok mode)
    (hrules : rulesFrom 0 d.pattern = .ok rules) (h : d.records mode text = .ok records) :
    AreAllRecords mode rules d.severity (Text.lines text.toList) records := by
  cases mode with
  | single =>
    obtain ⟨rule, rfl, hrecords⟩ := exists_rule hmode hrules
    rw [hrecords] at h
    rw [singleRecords_eq] at h
    obtain ⟨found, hfound, rfl⟩ := Outcome.map_eq_ok.1 h
    exact ⟨rule, rfl, extract_of_mapM hfound⟩
  | loop =>
    obtain ⟨headers, loop, rfl, -⟩ := exists_rules hmode hrules
    rw [records_loop hrules] at h
    exact ⟨headers, loop, rfl, recordAt_of_loopRecords h⟩

/-! ## Other fields -/

/-- The rule with other fields. -/
def Rule.withFields (fields : Entries Value) (rule : Rule) : Rule := { rule with fields }

/-- The sub-pattern with other fields. -/
def SubPattern.withFields (fields : Entries Value) (s : SubPattern) : SubPattern :=
  { s with fields }

/-- The description with other fields in one sub-pattern. -/
def Description.withFields (d : Description) (position : Nat) (fields : Entries Value) :
    Description :=
  { d with pattern := d.pattern.modify position (SubPattern.withFields fields) }

/-- Whether the rule of a trial matches its line. -/
def Trial.isMatch (rules : List Rule) (t : Trial) : Bool :=
  rules[t.position]?.any fun rule => (rule.regex.search t.line).isSome

variable {d : Description} {position : Nat} {fields : Entries Value}

theorem map_loop_modify (pattern : List SubPattern) :
    (pattern.modify position (SubPattern.withFields fields)).map SubPattern.loop =
      pattern.map SubPattern.loop := by
  apply List.ext_getElem?
  intro i
  rw [List.getElem?_map, List.getElem?_modify, List.getElem?_map]
  by_cases hi : position = i
  · simp [hi, SubPattern.withFields, Function.comp_def]
  · simp [hi]

theorem mode_withFields : (d.withFields position fields).mode = d.mode :=
  mode_congr (map_loop_modify d.pattern)

theorem validate_withFields : (Source.description (d.withFields position fields)).validate =
    (Source.description d).validate := by
  simp [Source.validate, Source.owner, Source.patternCount?, Description.withFields]

theorem isReadyAs_modify {pattern : List SubPattern} {rules : List Rule}
    (h : List.Forall₂ SubPattern.IsReadyAs pattern rules) :
    List.Forall₂ SubPattern.IsReadyAs (pattern.modify position (SubPattern.withFields fields))
      (rules.modify position (Rule.withFields fields)) := by
  induction h generalizing position with
  | nil => simp
  | cons hhere hrest ih =>
    cases position with
    | zero => exact .cons ⟨hhere.1, rfl⟩ hrest
    | succ position => exact .cons hhere ih

theorem rulesFrom_withFields {rules : List Rule} (h : rulesFrom 0 d.pattern = .ok rules) :
    rulesFrom 0 (d.withFields position fields).pattern =
      .ok (rules.modify position (Rule.withFields fields)) :=
  rulesFrom_eq_ok.2 (isReadyAs_modify (rulesFrom_eq_ok.1 h))

/-- A trial without a match reads nothing, with any fields. -/
theorem Trial.read?_modify {rules : List Rule} {t : Trial}
    (h : t.position = position → t.isMatch rules = false) (severity : Value) :
    Trial.read? (rules.modify position (Rule.withFields fields)) severity t =
      Trial.read? rules severity t := by
  unfold Trial.read?
  rw [List.getElem?_modify]
  by_cases hp : position = t.position
  · have hnone := h hp.symm
    unfold Trial.isMatch at hnone
    cases hr : rules[t.position]? with
    | none => simp
    | some rule =>
      have hsearch : rule.regex.search t.line = none := by simpa [hr] using hnone
      have hother : (rule.withFields fields).regex.search t.line = none := hsearch
      simp [hp, Rule.extract_of_search_none hsearch, Rule.extract_of_search_none hother]
  · simp [hp]

/-- Descriptions whose rules read the same in every trial find the same. -/
theorem records_congr {d' : Description} {mode : Mode} {rules rules' : List Rule} {text : String}
    (hmode : d.mode = .ok mode) (hmode' : d'.mode = .ok mode)
    (hrules : rulesFrom 0 d.pattern = .ok rules) (hrules' : rulesFrom 0 d'.pattern = .ok rules')
    (hseverity : d.severity = d'.severity) (hlen : rules.length = rules'.length)
    (h : ∀ t ∈ trials mode rules (Text.lines text.toList),
      Trial.read? rules d.severity t = Trial.read? rules' d.severity t) :
    d.records mode text = d'.records mode text := by
  cases mode with
  | single =>
    obtain ⟨rule, rfl, hrecords⟩ := exists_rule hmode hrules
    obtain ⟨rule', rfl, hrecords'⟩ := exists_rule hmode' hrules'
    rw [hrecords, hrecords', ← hseverity]
    exact singleRecords_congr h
  | loop =>
    obtain ⟨headers, loop, rfl, -⟩ := exists_rules hmode hrules
    obtain ⟨headers', loop', rfl, -⟩ := exists_rules hmode' hrules'
    rw [records_loop hrules, records_loop hrules', ← hseverity]
    rw [trials_loop] at h
    exact loopRecords_congr (by simpa using hlen) h

theorem records_withFields {mode : Mode} {rules : List Rule} {text : String}
    (hmode : d.mode = .ok mode) (hrules : rulesFrom 0 d.pattern = .ok rules)
    (h : ∀ t ∈ trials mode rules (Text.lines text.toList), t.position = position →
      t.isMatch rules = false) :
    (d.withFields position fields).records mode text = d.records mode text := by
  have hmode' : (d.withFields position fields).mode = .ok mode := mode_withFields.trans hmode
  have hlen : rules.length = (rules.modify position (Rule.withFields fields)).length :=
    (List.length_modify ..).symm
  symm
  refine records_congr hmode hmode' hrules (rulesFrom_withFields hrules) rfl hlen fun t ht => ?_
  exact (Trial.read?_modify (h t ht) d.severity).symm

/-! ## JSON -/

theorem sift_description {mode : Mode} {text : String}
    (hvalid : (Source.description d).validate = .ok ()) (hmode : d.mode = .ok mode)
    (htext : text ≠ "") : sift (.description d) (.text text) = d.records mode text := by
  rw [sift_of_ready hvalid rfl hmode, validateInput_text htext, Outcome.ok_bind]

/-- **The first fault decides.** A description that is built from a JSON value has rules. It fails
on a text with the error of the first trial that has one, and otherwise finds all records. A
sub-pattern that matches in none of its trials can have any fields. -/
theorem sift_first_fault {v : Value} {d : Description} {mode : Mode} {text : String}
    (hjson : v.isJson = true) (hvalid : (Source.value v).validate = .ok ())
    (hbuild : Description.ofValue v = .ok d) (hmode : d.mode = .ok mode) (htext : text ≠ "") :
    ∃ rules, rulesFrom 0 d.pattern = .ok rules ∧
      (∀ e, sift (.description d) (.text text) = .error e ↔
        (trials mode rules (Text.lines text.toList)).findSome? (Trial.fault? rules) = some e) ∧
      ((trials mode rules (Text.lines text.toList)).findSome? (Trial.fault? rules) = none →
        ∃ records, sift (.description d) (.text text) = .ok records ∧
          AreAllRecords mode rules d.severity (Text.lines text.toList) records) ∧
      ∀ position fields,
        (∀ t ∈ trials mode rules (Text.lines text.toList), t.position = position →
          t.isMatch rules = false) →
        sift (.description (d.withFields position fields)) (.text text) =
          sift (.description d) (.text text) := by
  obtain ⟨rules, hrules, hshow⟩ := exists_rules_of_isBuilt (isBuilt_of_ofValue hjson hbuild) 0
  have hvalid := validate_description hvalid hbuild hmode
  have hsift := sift_description hvalid hmode htext
  have herror := error?_records hmode hrules hshow text
  refine ⟨rules, hrules, fun e => ?_, fun hnone => ?_, fun position fields h => ?_⟩
  · rw [hsift, ← Outcome.error?_eq_some, herror]
  · obtain ⟨records, hrecords⟩ := Outcome.error?_eq_none.1 (herror.trans hnone)
    exact ⟨records, hsift.trans hrecords, areAllRecords_of_records hmode hrules hrecords⟩
  · rw [hsift, sift_description (validate_withFields.trans hvalid) (mode_withFields.trans hmode)
      htext]
    exact records_withFields hmode hrules h

/-- A report that names no file: its second line is tried with the dash alone. -/
theorem sift_first_fault_report : ∃ rules, rulesFrom 0 report.pattern = .ok rules ∧
    ∀ e, sift (.description report) (.text "a\n- x") = .error e ↔
      (trials .loop rules ["a".toList, "- x".toList]).findSome? (Trial.fault? rules) = some e := by
  have hmode : report.mode = .ok .loop := by rfl
  have htext : "a\n- x" ≠ "" := by decide
  obtain ⟨rules, hrules, hfault, -⟩ :=
    sift_first_fault (by decide +kernel) (by rfl) ofValue_reportValue hmode htext
  exact ⟨rules, hrules, hfault⟩

/-! ## Groups that make no sense -/

/-- A matcher with a group that ends before it begins: the last round of the repetition opens the
inner group behind the text and fails, and the group keeps the end that the first round gave it. -/
def backwardGroup : Value :=
  .map [(.text "owner", .text "o"),
    (.text "pattern", .list [.map [(.text "regexp", .text "((x)|y|z)*+")]])]

/-- A match can be at fault by itself: here there is an error, and not one field. -/
theorem brokenMatch_without_fields :
    backwardGroup.isJson = true ∧ (Source.value backwardGroup).validate = .ok () ∧
      ∃ d, Description.ofValue backwardGroup = .ok d ∧ d.mode = .ok .single ∧
        (∀ s ∈ d.pattern, s.fields = []) ∧
        sift (.description d) (.text "xyz") = .error .brokenMatch := by
  refine ⟨by decide, by rfl,
    ⟨.text "o", [⟨"((x)|y|z)*+", [], false⟩], .null⟩, by decide +kernel, by rfl, ?_,
    by decide +kernel⟩
  simp

end LogSift.Matcher
