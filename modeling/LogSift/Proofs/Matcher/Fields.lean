import LogSift.Proofs.Matcher.Build

/-!
# The fields of a line

What becomes of a line that an expression matches shows from the match and the fields, in the order
in which they are declared.

* `fieldsFault?_eq_some_iff`: the first field that is not readable decides the error
  (`IsFirstFault`).
* `isCompleted_withSeverity`: where the severity of the matcher stands in a record
  (`IsCompleted`).
* `extract_by_fields`: both for all lines, whether the expression matches them or not.
-/

namespace LogSift.Matcher

/-! ## Errors -/

/-- Whether an error is that of the first of the fields that is not readable: it asks for the whole
match, or for a group that is not there or has matched nothing. -/
def IsFirstFault (groups : Nat) (m : Regex.Match) (fields : Entries Value) (e : Error) : Prop :=
  ∃ before name group after, fields = before ++ (name, group) :: after ∧
    (∀ field ∈ before, isReadable groups m field.2 = true) ∧ isReadable groups m group = false ∧
    (group = .int 0 ∧ e = .groupZero ∨ group ≠ .int 0 ∧ e = .noGroup group name)

theorem fieldFault_eq_iff {name : Scalar} {group : Value} {e : Error} :
    fieldFault name group = e ↔
      group = .int 0 ∧ e = .groupZero ∨ group ≠ .int 0 ∧ e = .noGroup group name := by
  by_cases hzero : group = .int 0
  · subst hzero
    simp [fieldFault, eq_comm]
  · simp [fieldFault_of_ne hzero, hzero, eq_comm]

theorem fieldsFault?_eq_some_iff {groups : Nat} {m : Regex.Match} {fields : Entries Value}
    {e : Error} : fieldsFault? groups m fields = some e ↔ IsFirstFault groups m fields e := by
  simp only [fieldsFault?, Option.map_eq_some_iff, List.find?_eq_some_iff_append, Prod.exists,
    Bool.not_eq_true', Bool.not_not, fieldFault_eq_iff, IsFirstFault]
  constructor
  · rintro ⟨name, group, ⟨hgroup, before, after, hfields, hbefore⟩, he⟩
    exact ⟨before, name, group, after, hfields, hbefore, hgroup, he⟩
  · rintro ⟨before, name, group, after, hfields, hbefore, hgroup, he⟩
    exact ⟨name, group, ⟨hgroup, before, after, hfields, hbefore⟩, he⟩

theorem areShowable_of_entriesJson {fields : Entries Value}
    (h : Value.entriesJson fields = true) : AreShowable fields := by
  intro field hfield
  obtain ⟨⟨name, hname⟩, hgroup⟩ := Value.entriesJson_iff.1 h field hfield
  exact ⟨hname ▸ rfl, Value.isShowable_of_isJson hgroup⟩

/-! ## Severities -/

/-- What becomes of the fields that have been read from a line, with the severity of the matcher.
They stay as they are if the matcher has no severity, or if one that is not empty is among them.
Otherwise the severity of the matcher is put in: where the empty one stands, or behind the
fields. -/
inductive IsCompleted (severity : Value) (own : Record) : Record → Prop
  | without : severity = .null → IsCompleted severity own own
  | own (text : String) : Entries.field? "severity" own = some (.text text) → text ≠ "" →
    IsCompleted severity own own
  | empty (before after : Record) : severity ≠ .null →
    own = before ++ (.text "severity", .text "") :: after →
    IsCompleted severity own (before ++ (.text "severity", severity) :: after)
  | missing : severity ≠ .null → own.has (.text "severity") = false →
    IsCompleted severity own (own ++ [(.text "severity", severity)])

theorem isCompleted_withSeverity {own : Record} (htexts : ∀ e ∈ own, ∃ text, e.2 = .text text)
    (severity : Value) : IsCompleted severity own (withSeverity severity own) := by
  by_cases hnull : severity = .null
  · subst hnull
    exact .without rfl
  cases hfield : Entries.field? "severity" own with
  | none =>
    have hnew : own.has (.text "severity") = false := by
      rw [Entries.has, show Entries.get? _ own = none from hfield]
      rfl
    rw [withSeverity_of_not_own hnull (by simp [hfield]), Entries.set_eq_append hnew]
    exact .missing hnull hnew
  | some v =>
    obtain ⟨before, k, after, hown, hbefore, hk⟩ := Entries.exists_split_of_get? hfield
    obtain ⟨text, rfl⟩ : ∃ text, v = .text text := htexts (k, v) (by simp [hown])
    by_cases htext : text = ""
    · -- The severity that has been read is empty, and that of the matcher takes its place.
      subst htext
      rw [Scalar.sameKey_comm, Scalar.sameKey_text_iff] at hk
      subst hk
      have hempty : ∀ v, Entries.field? "severity" own = some v → v.isTrue = false := by
        intro v hv
        cases hfield.symm.trans hv
        rfl
      rw [withSeverity_of_not_own hnull hempty, hown,
        Entries.set_append_cons hbefore (Scalar.sameKey_refl _)]
      exact .empty before after hnull rfl
    · have htrue : (Value.text text).isTrue = true := by
        simpa [Value.isTrue, Value.scalarTruth] using htext
      rw [withSeverity_of_own hfield htrue]
      exact .own text hfield htext

/-! ## Lines -/

/-- **A record by its fields.** An expression gives no record just for the lines that it does not
match. A match of which a group begins behind its end is an error. Of any other match the first
field that is not readable decides the error; and if all are readable, the record has what they
read, and the severity of the matcher if it has none of its own. -/
theorem extract_by_fields {fields : Entries Value} (hjson : Value.entriesJson fields = true)
    (regex : Regex) (line : List Char) (severity : Value) :
    (extract regex line fields severity = .ok none ↔ regex.search line = none) ∧
    ∀ m, regex.search line = some m →
      (m.isSound regex.groupCount = false →
        extract regex line fields severity = .error .brokenMatch) ∧
      (m.isSound regex.groupCount = true →
        (∀ e, extract regex line fields severity = .error e ↔
          IsFirstFault regex.groupCount m fields e) ∧
        ((∀ field ∈ fields, isReadable regex.groupCount m field.2 = true) →
          ∃ own record,
            List.Forall₂ (fun field e => e.1 = field.1 ∧
              IsCaptured regex.groupCount m field.2 e.2) fields own ∧
            IsCompleted severity own record ∧
            extract regex line fields severity = .ok (some record))) := by
  obtain ⟨rule, rfl, rfl⟩ : ∃ rule : Rule, rule.regex = regex ∧ rule.fields = fields :=
    ⟨⟨regex, fields⟩, rfl, rfl⟩
  have hshow := areShowable_of_entriesJson hjson
  refine ⟨Rule.extract_eq_none_iff, fun m hm =>
    ⟨fun hbroken => ?_, fun hsound => ⟨fun e => ?_, fun hread => ?_⟩⟩⟩
  · have hextract := Rule.extract_of_search hm severity
    rwa [if_neg (by simp [hbroken])] at hextract
  · have hfault := Rule.error?_extract hshow severity line
    rw [← fieldsFault?_eq_some_iff, ← Outcome.error?_eq_some]
    simpa [Rule.extract, Rule.fault?, hm, hsound] using congrArg (· = some e) hfault
  · have hall : fieldsFault? rule.regex.groupCount m rule.fields = none := by
      simpa [fieldsFault?] using hread
    obtain ⟨own, hown⟩ := Outcome.error?_eq_none.1 ((error?_fieldValues hshow).trans hall)
    have hcaptured := forall₂_of_fieldValues hown
    refine ⟨own, withSeverity severity own, hcaptured, isCompleted_withSeverity ?_ severity, ?_⟩
    · intro e he
      obtain ⟨field, -, -, n, part, -, -, -, htext⟩ := exists_left_of_forall₂ hcaptured he
      exact ⟨_, htext⟩
    · exact Rule.extract_eq_some_iff.2 ⟨m, own, hm, hsound, hown, rfl⟩

/-- The fields of a line that may begin with a letter for its severity. -/
def ratedFields : Entries Value := [(.text "severity", .int 1), (.text "message", .int 2)]

/-- The severity that is read is a blank, so that of the matcher stands in its place. -/
theorem extract_by_fields_emptySeverity :
    Value.entriesJson ratedFields = true ∧ ∃ regex m own,
      Regex.ofText "^( E?) (.+)" = .ok regex ∧ regex.search "  y".toList = some m ∧
      List.Forall₂ (fun field e => e.1 = field.1 ∧ IsCaptured regex.groupCount m field.2 e.2)
        ratedFields own ∧
      IsCompleted (.text "warning") own
        [(.text "severity", .text "warning"), (.text "message", .text "y")] ∧
      extract regex "  y".toList ratedFields (.text "warning") =
        .ok (some [(.text "severity", .text "warning"), (.text "message", .text "y")]) := by
  have hjson : Value.entriesJson ratedFields = true := by decide +kernel
  have hmatch : (Regex.ofText "^( E?) (.+)").toOption.bind (fun regex =>
      (regex.search "  y".toList).map fun m => (m.isSound regex.groupCount,
        ratedFields.all fun field => isReadable regex.groupCount m field.2)) =
          some (true, true) := by decide +kernel
  have hrun : (do
      let regex ← compile 0 "^( E?) (.+)"
      extract regex "  y".toList ratedFields (.text "warning")) =
        .ok (some [(.text "severity", .text "warning"), (.text "message", .text "y")]) := by
    decide +kernel
  obtain ⟨regex, hregex, hrun⟩ := Outcome.bind_eq_ok.1 hrun
  rw [compile_eq_ok] at hregex
  simp only [hregex, Except.toOption, Option.bind_some, Option.map_eq_some_iff, Prod.mk.injEq,
    List.all_eq_true] at hmatch
  obtain ⟨m, hm, hsound, hread⟩ := hmatch
  obtain ⟨own, record, hown, hcompleted, hrecord⟩ :=
    (((extract_by_fields hjson regex "  y".toList (.text "warning")).2 m hm).2 hsound).2 hread
  cases hrecord.symm.trans hrun
  exact ⟨hjson, regex, m, own, hregex, hm, hown, hcompleted, hrun⟩

/-- An expression can match a line, and without any field there is an error that is not about the
configuration: the group of the match begins behind its end. -/
theorem extract_backwardGroup : ∃ regex, Regex.ofText "((x)|y|z)*+" = .ok regex ∧
    (regex.search "xyz".toList).isSome ∧
    ∃ e, extract regex "xyz".toList [] .null = .error e ∧ e.family ≠ .configuration := by
  have hmatch : (Regex.ofText "((x)|y|z)*+").toOption.map (fun regex =>
      (regex.search "xyz".toList).isSome) = some true := by decide +kernel
  have hrun : (do
      let regex ← compile 0 "((x)|y|z)*+"
      extract regex "xyz".toList [] .null) = .error .brokenMatch := by decide +kernel
  cases hregex : Regex.ofText "((x)|y|z)*+" with
  | error e =>
    rw [hregex] at hmatch
    cases hmatch
  | ok regex =>
    rw [compile_eq_ok.2 hregex] at hrun
    rw [hregex] at hmatch
    exact ⟨regex, rfl, Option.some.inj hmatch, _, hrun, by simp [Error.family]⟩

end LogSift.Matcher
