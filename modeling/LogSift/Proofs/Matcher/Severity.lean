import LogSift.Proofs.Matcher.Faults
import LogSift.Proofs.Matcher.Provenance

/-!
# The severity of a matcher

The severity of a matcher is put into records that have none of their own. Nothing else depends on
it: two runs of a matcher with two severities go the same way, line by line, and their records are
the same apart from the severity (`SameApart`).

* `related_extract`, `related_loopStep`, `related_records`: two runs that differ in the severity,
  for a line, for a step of the loop and for a text.
* `extract_of_ownSeverity`: a line from which a rule reads a severity gives the same record with
  any severity.
* `sift_default_severity`: both for matchers that are the same in writing apart from their severity.
-/

namespace LogSift.Matcher

/-- Whether two records are the same apart from the severity: the other keys stand in the same
order and have the same values. -/
def SameApart (r r' : Record) : Prop := r.erase (.text "severity") = r'.erase (.text "severity")

theorem sameApart_withSeverity (severity : Value) (record : Record) :
    SameApart (withSeverity severity record) record := by
  rcases withSeverity_cases severity record with ⟨hsame, -⟩ | ⟨hset, -⟩
  · rw [hsame]
    rfl
  · rw [hset]
    exact Entries.erase_set_self _ _ _

theorem SameApart.merge {r r' fields fields' : Record} (h : SameApart r r')
    (hfields : SameApart fields fields') :
    SameApart (Entries.merge r fields) (Entries.merge r' fields') := by
  unfold SameApart at *
  rw [Entries.erase_merge, Entries.erase_merge, h, hfields]

/-! ## Two runs -/

section

variable (severity severity' : Value)

theorem related_extract (rule : Rule) (line : List Char) :
    Outcome.Related (Option.Rel SameApart) (rule.extract severity line)
      (rule.extract severity' line) := by
  cases hm : rule.regex.search line with
  | none =>
    rw [Rule.extract_of_search_none hm, Rule.extract_of_search_none hm]
    exact .ok .none
  | some m =>
    rw [Rule.extract_of_search hm, Rule.extract_of_search hm]
    split
    · refine (Outcome.Related.refl _).map fun own _ hown => .some ?_
      subst hown
      exact (sameApart_withSeverity severity own).trans (sameApart_withSeverity severity' own).symm
    · exact .error _

theorem related_headerFields (line : List Char) {r r' : Record} (h : SameApart r r')
    (rules : List Rule) :
    Outcome.Related SameApart (headerFields severity line r rules)
      (headerFields severity' line r' rules) := by
  induction rules generalizing r r' with
  | nil => exact .ok h
  | cons rule rules ih =>
    refine (related_extract severity severity' rule line).bind fun found found' hfound => ?_
    cases hfound with
    | none => exact ih h
    | some hfields => exact ih (h.merge hfields)

/-- Whether two states of the loop, each with the records that a step or a scan has given, are the
same apart from the severity. -/
def SameState (x y : Option Record × List Record) : Prop :=
  Option.Rel SameApart x.1 y.1 ∧ List.Forall₂ SameApart x.2 y.2

theorem related_loopStep (headers : List Rule) (loop : Rule) {context context' : Option Record}
    (h : Option.Rel SameApart context context') (line : List Char) :
    Outcome.Related SameState (loopStep headers loop severity context line)
      (loopStep headers loop severity' context' line) := by
  have hstart : Outcome.Related SameState
      (do return (some (← contextOf headers severity line), []))
      (do return (some (← contextOf headers severity' line), [])) :=
    (related_headerFields severity severity' line rfl headers).bind fun _ _ hnew =>
      .ok ⟨.some hnew, .nil⟩
  cases h with
  | none => exact hstart
  | @some old old' hold =>
    unfold loopStep
    dsimp only
    split
    · exact .ok ⟨.some hold, .nil⟩
    · refine (related_extract severity severity' loop line).bind fun found found' hfound => ?_
      cases hfound with
      | none => exact hstart
      | some hfields => exact .ok ⟨.some hold, .cons (hold.merge hfields) .nil⟩

theorem related_loopScan (headers : List Rule) (loop : Rule) {context context' : Option Record}
    (h : Option.Rel SameApart context context') (lines : List (List Char)) :
    Outcome.Related SameState (loopScan headers loop severity context lines)
      (loopScan headers loop severity' context' lines) := by
  induction lines generalizing context context' with
  | nil => exact .ok ⟨h, .nil⟩
  | cons line lines ih =>
    refine (related_loopStep severity severity' headers loop h line).bind fun step step' hstep => ?_
    refine (ih hstep.1).bind fun scan scan' hscan => .ok ⟨hscan.1, ?_⟩
    exact List.rel_append hstep.2 hscan.2

theorem related_loopRecords (headers : List Rule) (loop : Rule) (lines : List (List Char)) :
    Outcome.Related (List.Forall₂ SameApart) (loopRecords headers loop severity lines)
      (loopRecords headers loop severity' lines) := by
  rw [loopRecords_eq, loopRecords_eq]
  exact (related_loopScan severity severity' headers loop .none lines).map fun _ _ h => h.2

theorem related_singleRecords (rule : Rule) (lines : List (List Char)) :
    Outcome.Related (List.Forall₂ SameApart) (singleRecords rule severity lines)
      (singleRecords rule severity' lines) := by
  induction lines with
  | nil => exact .ok .nil
  | cons line lines ih =>
    refine (related_extract severity severity' rule line).bind fun found found' hfound =>
      ih.bind fun more more' hmore => .ok (List.rel_append ?_ hmore)
    cases hfound with
    | none => exact .nil
    | some hfields => exact .cons hfields .nil

/-- A description finds the same apart from the severity, whatever its severity is. -/
theorem related_records (d : Description) (mode : Mode) (text : String) :
    Outcome.Related (List.Forall₂ SameApart) (d.records mode text)
      ({ d with severity := severity' }.records mode text) := by
  cases mode with
  | single =>
    unfold Description.records
    dsimp only
    cases d.pattern with
    | nil => exact .ok .nil
    | cons s _ => exact .bind_same fun regex _ => related_singleRecords _ _ _ _
  | loop =>
    refine .bind_same fun rules _ => ?_
    cases rules.getLast? with
    | none => exact .ok .nil
    | some loop => exact related_loopRecords _ _ _ _ _

end

/-! ## Severities that are read -/

/-- What a rule reads as severity from a line, without blanks at its ends. -/
def Rule.ownSeverity? (rule : Rule) (line : List Char) : Option (List Char) :=
  (rule.regex.search line).bind fun m =>
    match Entries.field? "severity" rule.fields with
    | some (.int n) => (capture? rule.regex.groupCount m n).map Text.trim
    | _ => none

/-- What is read as severity stands in the fields that are read. -/
theorem field?_of_fieldValues {rule : Rule} {line : List Char} {m : Regex.Match} {own : Record}
    (hm : rule.regex.search line = some m)
    (h : fieldValues rule.regex.groupCount m rule.fields = .ok own) :
    Entries.field? "severity" own =
      (rule.ownSeverity? line).map fun text => .text (String.ofList text) := by
  have hread := Entries.rel_get?_of_forall₂ (forall₂_of_fieldValues h) (.text "severity")
  simp only [Rule.ownSeverity?, hm, Option.bind_some, Entries.field?]
  generalize Entries.get? (.text "severity") rule.fields = group at hread
  generalize Entries.get? (.text "severity") own = value at hread
  cases hread with
  | none => rfl
  | some hcaptured =>
    obtain ⟨n, part, rfl, hpart, -, rfl⟩ := hcaptured
    simp [hpart]

/-- A line from which a rule reads a severity gives the same record with any severity, and the
record has the severity that is read. -/
theorem extract_of_ownSeverity {rule : Rule} {line text : List Char} {severity severity' : Value}
    {r r' : Record} (hown : rule.ownSeverity? line = some text) (htext : text ≠ [])
    (h : rule.extract severity line = .ok (some r))
    (h' : rule.extract severity' line = .ok (some r')) :
    r = r' ∧ r.has (.text "severity") = true := by
  obtain ⟨m, own, hm, -, hvalues, rfl⟩ := Rule.extract_eq_some_iff.1 h
  obtain ⟨m', own', hm', -, hvalues', rfl⟩ := Rule.extract_eq_some_iff.1 h'
  cases hm.symm.trans hm'
  cases hvalues.symm.trans hvalues'
  have hfield := field?_of_fieldValues hm hvalues
  rw [hown, Option.map_some] at hfield
  have htrue : (Value.text (String.ofList text)).isTrue = true := by
    simpa [Value.isTrue, Value.scalarTruth] using htext
  rw [withSeverity_of_own hfield htrue, withSeverity_of_own hfield htrue]
  exact ⟨rfl, Option.isSome_of_eq_some hfield⟩

/-! ## Records of one line -/

/-- The lines that records belong to: without a loop those that match, with one the details. -/
def recordLines (mode : Mode) (last : Regex) (lines : List (List Char)) : List (List Char) :=
  match mode with
  | .single => lines.filter fun line => (last.search line).isSome
  | .loop => (detailsOf last lines).map fun i => lines.getD i []

/-- Whether the records that two runs give for one line differ in nothing but a severity that the
rule has not read from the line. -/
structure AgreeOn (rule : Rule) (line : List Char) (r r' : Record) : Prop where
  others : SameApart r r'
  own : ∀ text, rule.ownSeverity? line = some text → text ≠ [] →
    Entries.field? "severity" r = Entries.field? "severity" r'

/-- Items that have partners in two lists, which are partners as well. -/
theorem forall₂_zip_of_forall₂ {α β γ : Type} {P : α → β → Prop} {Q : α → γ → Prop}
    {R : β → γ → Prop} {xs : List α} {ys : List β} {zs : List γ} (hp : List.Forall₂ P xs ys)
    (hq : List.Forall₂ Q xs zs) (hr : List.Forall₂ R ys zs) :
    List.Forall₂ (fun x pair => P x pair.1 ∧ Q x pair.2 ∧ R pair.1 pair.2) xs (ys.zip zs) := by
  induction hp generalizing zs with
  | nil => exact .nil
  | cons hxy _ ih =>
    cases hq with
    | cons hxz hq =>
      cases hr with
      | cons hyz hr => exact .cons ⟨hxy, hxz, hyz⟩ (ih hq hr)

theorem agreeOn_of_areAllRecords {mode : Mode} {rules : List Rule} {rule : Rule}
    {severity severity' : Value} {lines : List (List Char)} {records records' : List Record}
    (hlast : rules.getLast? = some rule) (h : AreAllRecords mode rules severity lines records)
    (h' : AreAllRecords mode rules severity' lines records')
    (hsame : List.Forall₂ SameApart records records') :
    List.Forall₂ (fun line pair => AgreeOn rule line pair.1 pair.2)
      (recordLines mode rule.regex lines) (records.zip records') := by
  cases mode with
  | single =>
    obtain ⟨only, rfl, hall⟩ := h
    obtain ⟨only', heq, hall'⟩ := h'
    cases heq
    cases hlast
    refine (forall₂_zip_of_forall₂ hall hall' hsame).imp fun line pair ⟨hr, hr', hothers⟩ =>
      ⟨hothers, fun text hown htext => ?_⟩
    rw [(extract_of_ownSeverity hown htext hr hr').1]
  | loop =>
    obtain ⟨headers, loop, rfl, hall⟩ := h
    obtain ⟨headers', loop', heq, hall'⟩ := h'
    obtain ⟨rfl, hloop⟩ := List.append_inj' heq rfl
    obtain rfl := List.singleton_inj.1 hloop
    obtain rfl : loop = rule := by simpa using hlast
    unfold recordLines
    rw [List.forall₂_map_left_iff]
    refine (forall₂_zip_of_forall₂ hall hall' hsame).imp fun i pair ⟨hr, hr', hothers⟩ =>
      ⟨hothers, fun text hown htext => ?_⟩
    obtain ⟨readings, fields, -, hfields, hrecord, -⟩ := hr
    obtain ⟨readings', fields', -, hfields', hrecord', -⟩ := hr'
    -- The loop reads the same with both severities, and what it reads wins over the headers.
    obtain ⟨rfl, hhas⟩ := extract_of_ownSeverity hown htext hfields hfields'
    rw [hrecord, hrecord']
    exact Entries.get?_merge_of_has hhas _ _

/-! ## Matchers in writing -/

section

variable {m m' : Entries Value} (h : m.erase (.text "severity") = m'.erase (.text "severity"))
include h

theorem field?_of_erase {name : String} (hname : name ≠ "severity") :
    Entries.field? name m = Entries.field? name m' := by
  have hkey : (Scalar.text name).sameKey (.text "severity") = false := by
    simpa [Scalar.sameKey_text] using hname
  unfold Entries.field?
  rw [← Entries.get?_erase hkey m, h, Entries.get?_erase hkey]

theorem validate_of_erase :
    (Source.value (.map m)).validate = (Source.value (.map m')).validate := by
  have howner : (Source.value (.map m)).owner = (Source.value (.map m')).owner := by
    rw [Source.owner, Source.owner, field?_of_erase h (by decide)]
  have hcount :
      (Source.value (.map m)).patternCount? = (Source.value (.map m')).patternCount? := by
    rw [Source.patternCount?, Source.patternCount?, field?_of_erase h (by decide)]
  simp only [Source.validate, howner, hcount]

theorem ofValue_of_erase : Description.ofValue (.map m') =
    (fun d => { d with severity := (Entries.field? "severity" m').getD .null }) <$>
      Description.ofValue (.map m) := by
  have hrequired {name : String} (hname : name ≠ "severity") :
      requiredEntry m' name = requiredEntry m name := by
    rw [requiredEntry, requiredEntry, field?_of_erase h hname]
  simp only [Description.ofValue, entriesOf, Outcome.ok_bind, map_bind,
    hrequired (show "owner" ≠ "severity" by decide),
    hrequired (show "pattern" ≠ "severity" by decide)]
  rfl

/-- Two matchers that are the same in writing apart from their severity find the same apart from
the severity. -/
theorem related_sift (input : Value) :
    Outcome.Related (List.Forall₂ SameApart) (sift (.value (.map m)) input)
      (sift (.value (.map m')) input) := by
  have hdescribe : (Source.value (.map m')).describe =
      (fun d => { d with severity := (Entries.field? "severity" m').getD .null }) <$>
        (Source.value (.map m)).describe := ofValue_of_erase h
  simp only [sift, Job.prepare, validate_of_erase h, hdescribe, bind_assoc, bind_map_left]
  refine .bind_same fun _ _ => .bind_same fun text _ => .bind_same fun d _ =>
    .bind_same fun mode _ => ?_
  exact related_records _ d mode text

end

theorem exists_last_rule {d : Description} {mode : Mode} {rules : List Rule}
    (hmode : d.mode = .ok mode) (h : rulesFrom 0 d.pattern = .ok rules) :
    ∃ rule, rules.getLast? = some rule := by
  have hne : rules ≠ [] := by
    rintro rfl
    exact pattern_ne_nil_of_mode hmode (List.forall₂_nil_right_iff.1 (rulesFrom_eq_ok.1 h))
  exact ⟨rules.getLast hne, List.getLast?_eq_some_getLast hne⟩

/-- **The severity of a matcher affects nothing else.** Two matchers that are the same in writing
apart from their severity fail on an input with the same error, or they find as many records in it,
and those that belong to the same line are the same apart from the severity. They have the same
severity if the last rule, which is the loop if there is one, has read one from the line. -/
theorem sift_default_severity {m m' : Entries Value}
    (h : m.erase (.text "severity") = m'.erase (.text "severity")) (input : Value) :
    (∃ e, sift (.value (.map m)) input = .error e ∧ sift (.value (.map m')) input = .error e) ∨
    ∃ records records' d mode rules rule text,
      sift (.value (.map m)) input = .ok records ∧ sift (.value (.map m')) input = .ok records' ∧
      Description.ofValue (.map m) = .ok d ∧ d.mode = .ok mode ∧
      rulesFrom 0 d.pattern = .ok rules ∧ rules.getLast? = some rule ∧ input = .text text ∧
      AreAllRecords mode rules ((Entries.field? "severity" m).getD .null)
        (Text.lines text.toList) records ∧
      AreAllRecords mode rules ((Entries.field? "severity" m').getD .null)
        (Text.lines text.toList) records' ∧
      records.length = records'.length ∧
      List.Forall₂ (fun line pair => AgreeOn rule line pair.1 pair.2)
        (recordLines mode rule.regex (Text.lines text.toList)) (records.zip records') := by
  generalize hx : sift (.value (.map m)) input = x
  generalize hx' : sift (.value (.map m')) input = x'
  have hrelated := related_sift h input
  rw [hx, hx'] at hrelated
  cases hrelated with
  | error e => exact .inl ⟨e, rfl, rfl⟩
  | @ok records records' hsame =>
    right
    obtain ⟨d, mode, text, hd, hmode, rfl, hrecords⟩ := exists_job_of_sift hx
    obtain ⟨d', mode', text', hd', hmode', htext, hrecords'⟩ := exists_job_of_sift hx'
    cases htext
    have hother : d' = { d with severity := (Entries.field? "severity" m').getD .null } := by
      have hbuild := ofValue_of_erase h
      rw [show Description.ofValue (.map m) = .ok d from hd,
        show Description.ofValue (.map m') = .ok d' from hd'] at hbuild
      exact Except.ok.inj hbuild
    subst hother
    cases hmode.symm.trans hmode'
    obtain ⟨rules, hrules⟩ := exists_rules_of_ofValue hd
    obtain ⟨rule, hlast⟩ := exists_last_rule hmode hrules
    have hall := areAllRecords_of_records hmode hrules hrecords
    have hall' := areAllRecords_of_records hmode' hrules hrecords'
    obtain ⟨entries, hentries, hgiven⟩ := Description.ofValue_eq_ok_iff.1 hd
    cases hentries
    rw [← hgiven.severity] at hall
    exact ⟨records, records', d, mode, rules, rule, text, rfl, rfl, hd, hmode, hrules, hlast, rfl,
      hall, hall', hsame.length_eq, agreeOn_of_areAllRecords hlast hall hall' hsame⟩

/-- A matcher of lines that may begin with a letter for their severity. -/
def ratedLines (severity : Entries Value) : Entries Value :=
  (.text "owner", .text "lines") :: severity ++ [(.text "pattern", .list [
    .map [(.text "regexp", .text "^( E?) (.+)"), (.text "severity", .int 1),
      (.text "message", .int 2)]])]

/-- With a severity and without one: the line that begins with a letter has the same record, and
the one that does not has another severity. -/
theorem sift_default_severity_ratedLines :
    Entries.erase (.text "severity") (ratedLines [(.text "severity", .text "warning")]) =
      Entries.erase (.text "severity") (ratedLines []) ∧
    ∃ records records' rule,
      records = [[(.text "severity", .text "E"), (.text "message", .text "x")],
        [(.text "severity", .text "warning"), (.text "message", .text "y")]] ∧
      records' = [[(.text "severity", .text "E"), (.text "message", .text "x")],
        [(.text "severity", .text ""), (.text "message", .text "y")]] ∧
      sift (.value (.map (ratedLines [(.text "severity", .text "warning")])))
        (.text " E x\n  y") = .ok records ∧
      sift (.value (.map (ratedLines []))) (.text " E x\n  y") = .ok records' ∧
      List.Forall₂ (fun line pair => AgreeOn rule line pair.1 pair.2)
        (recordLines .single rule.regex (Text.lines " E x\n  y".toList))
        (records.zip records') := by
  have hsame : Entries.erase (.text "severity") (ratedLines [(.text "severity", .text "warning")]) =
      Entries.erase (.text "severity") (ratedLines []) := rfl
  have hgraded : sift (.value (.map (ratedLines [(.text "severity", .text "warning")])))
      (.text " E x\n  y") = .ok [[(.text "severity", .text "E"), (.text "message", .text "x")],
        [(.text "severity", .text "warning"), (.text "message", .text "y")]] := by decide +kernel
  have hplain : sift (.value (.map (ratedLines []))) (.text " E x\n  y") =
      .ok [[(.text "severity", .text "E"), (.text "message", .text "x")],
        [(.text "severity", .text ""), (.text "message", .text "y")]] := by decide +kernel
  refine ⟨hsame, ?_⟩
  rcases sift_default_severity hsame (.text " E x\n  y") with ⟨e, he, -⟩ |
    ⟨records, records', d, mode, rules, rule, text, hrecords, hrecords', hd, hmode, -, -, htext, -,
      -, -, hagree⟩
  · rw [hgraded] at he
    cases he
  · obtain rfl := Except.ok.inj (hgraded.symm.trans hrecords)
    obtain rfl := Except.ok.inj (hplain.symm.trans hrecords')
    cases htext
    have hsingle : mode = .single := by
      have hbuild : Description.ofValue
          (.map (ratedLines [(.text "severity", .text "warning")])) =
            .ok ⟨.text "lines", [⟨"^( E?) (.+)", [(.text "severity", .int 1),
              (.text "message", .int 2)], false⟩], .text "warning"⟩ := by decide +kernel
      cases hbuild.symm.trans hd
      cases hmode
      rfl
    subst hsingle
    exact ⟨_, _, rule, rfl, rfl, hrecords, hrecords', hagree⟩

end LogSift.Matcher
