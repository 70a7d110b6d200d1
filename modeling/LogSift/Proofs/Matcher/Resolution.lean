import LogSift.Proofs.Matcher.Keys
import LogSift.Proofs.Matcher.Severity

/-!
# Which severity a record gets

With a loop the severity of the matcher is put into what is read from every header and from every
detail, before these are merged. Of all of them one is left in the record of a detail.

* `field?_of_extract`: the severity of what a rule reads from a line (`resolveSeverity`).
* `exists_severity_of_last`: without a severity of the matcher the last header that reads one from a
  header line decides.
* `isResolved_of_recordAt`: where the severity of the record of a detail comes from (`IsResolved`).
* `sift_loop_severity`: the same for all records of a matcher.
-/

namespace LogSift.Matcher

/-! ## One line -/

/-- Whether a rule has a field for the severity. -/
def Rule.declaresSeverity (rule : Rule) : Bool := rule.fields.has (.text "severity")

/-- The severity that a record gets: what has been read as one, if it is not empty, otherwise that
of the matcher, otherwise the empty one. -/
def resolveSeverity (severity : Value) : Option (List Char) → Option Value
  | some (c :: cs) => some (.text (String.ofList (c :: cs)))
  | read =>
    match severity with
    | .null => read.map fun text => .text (String.ofList text)
    | v => some v

@[simp] theorem resolveSeverity_null (read : Option (List Char)) :
    resolveSeverity .null read = read.map fun text => .text (String.ofList text) := by
  unfold resolveSeverity
  split
  · rfl
  · rfl

theorem resolveSeverity_of_ne_nil {text : List Char} (h : text ≠ []) (severity : Value) :
    resolveSeverity severity (some text) = some (.text (String.ofList text)) := by
  cases text with
  | nil => exact absurd rfl h
  | cons c cs => rfl

theorem resolveSeverity_of_ne_null {severity : Value} {read : Option (List Char)}
    (hnull : severity ≠ .null) (h : ∀ text, read = some text → text = []) :
    resolveSeverity severity read = some severity := by
  unfold resolveSeverity
  split
  · cases h _ rfl
  · split
    · exact absurd rfl hnull
    · rfl

theorem field?_withSeverity {own : Record} {read : Option (List Char)}
    (h : Entries.field? "severity" own = read.map fun text => .text (String.ofList text))
    (severity : Value) :
    Entries.field? "severity" (withSeverity severity own) = resolveSeverity severity read := by
  by_cases hnull : severity = .null
  · subst hnull
    rw [resolveSeverity_null, ← h]
    rfl
  by_cases hread : ∃ text, read = some text ∧ text ≠ []
  · obtain ⟨text, rfl, htext⟩ := hread
    have htrue : (Value.text (String.ofList text)).isTrue = true := by
      simpa [Value.isTrue, Value.scalarTruth] using htext
    rw [withSeverity_of_own h htrue, h, resolveSeverity_of_ne_nil htext]
    rfl
  · have hempty : ∀ text, read = some text → text = [] := fun text htext =>
      by_contra fun hne => hread ⟨text, htext, hne⟩
    have hnot : ∀ v, Entries.field? "severity" own = some v → v.isTrue = false := by
      intro v hv
      rw [h] at hv
      obtain ⟨text, htext, rfl⟩ := Option.map_eq_some_iff.1 hv
      rw [hempty text htext]
      rfl
    rw [withSeverity_of_not_own hnull hnot, resolveSeverity_of_ne_null hnull hempty,
      Entries.field?, Entries.get?_set, if_pos (Scalar.sameKey_refl _)]

/-- The severity of a record that a rule has read from a line. -/
theorem field?_of_extract {rule : Rule} {severity : Value} {line : List Char} {record : Record}
    (h : rule.extract severity line = .ok (some record)) :
    Entries.field? "severity" record = resolveSeverity severity (rule.ownSeverity? line) := by
  obtain ⟨m, own, hm, -, hown, rfl⟩ := Rule.extract_eq_some_iff.1 h
  exact field?_withSeverity (field?_of_fieldValues hm hown) severity

/-- A rule that has read a record has read a severity if it has a field for it. -/
theorem declaresSeverity_of_extract {rule : Rule} {severity : Value} {line : List Char}
    {record : Record} (h : rule.extract severity line = .ok (some record)) :
    rule.declaresSeverity = (rule.ownSeverity? line).isSome := by
  obtain ⟨m, own, hm, -, hown, -⟩ := Rule.extract_eq_some_iff.1 h
  have hsome : rule.declaresSeverity = (Entries.field? "severity" own).isSome := by
    have hrel := Entries.rel_get?_of_forall₂ (forall₂_of_fieldValues hown) (.text "severity")
    rw [Rule.declaresSeverity, Entries.has, Entries.field?]
    generalize Entries.get? (.text "severity") rule.fields = group at hrel
    generalize Entries.get? (.text "severity") own = value at hrel
    cases hrel with
    | none => rfl
    | some => rfl
  rw [hsome, field?_of_fieldValues hm hown, Option.isSome_map]

/-! ## A header line -/

/-- Whether a rule matches a line and has a field for the severity. -/
def Rule.givesSeverity (rule : Rule) (line : List Char) : Bool :=
  (rule.regex.search line).isSome && rule.declaresSeverity

theorem ownSeverity?_of_not_gives {rule : Rule} {line : List Char}
    (h : rule.givesSeverity line = false) : rule.ownSeverity? line = none := by
  unfold Rule.ownSeverity?
  cases hm : rule.regex.search line with
  | none => rfl
  | some m =>
    have hnone : Entries.field? "severity" rule.fields = none := by
      simpa [Rule.givesSeverity, hm, Rule.declaresSeverity, Entries.has, Entries.field?] using h
    rw [Option.bind_some, hnone]

/-- Rules that do not give a severity have read none. -/
theorem findSome?_of_not_gives {rules : List Rule} {line : List Char}
    (h : ∀ rule ∈ rules, rule.givesSeverity line = false) :
    (rules.reverse.findSome? fun rule =>
      (rule.ownSeverity? line).map fun text => Value.text (String.ofList text)) = none := by
  rw [List.findSome?_eq_none_iff]
  intro rule hrule
  rw [ownSeverity?_of_not_gives (h rule (List.mem_reverse.1 hrule)), Option.map_none]

section

variable {headers : List Rule} {header : List Char} {readings : List Record}

/-- Without a severity of the matcher the readings of a header line have the severities that the
headers have read. -/
theorem findSome?_headerReadings (h : headerReadings headers .null header = .ok readings) :
    readings.reverse.findSome? (Entries.field? "severity") =
      headers.reverse.findSome? fun rule =>
        (rule.ownSeverity? header).map fun text => .text (String.ofList text) := by
  induction headers generalizing readings with
  | nil =>
    cases h
    rfl
  | cons rule headers ih =>
    rw [headerReadings_cons] at h
    obtain ⟨found, hfound, h⟩ := Outcome.bind_eq_ok.1 h
    obtain ⟨more, hmore, h⟩ := Outcome.bind_eq_ok.1 h
    cases h
    rw [List.reverse_append, List.findSome?_append, ih hmore, List.reverse_cons,
      List.findSome?_append, List.findSome?_singleton]
    cases found with
    | none =>
      have hnone : rule.ownSeverity? header = none := by
        rw [Rule.ownSeverity?, Rule.extract_eq_none_iff.1 hfound, Option.bind_none]
      rw [hnone]
      rfl
    | some record =>
      rw [← resolveSeverity_null, ← field?_of_extract hfound, Option.toList_some,
        List.reverse_singleton, List.findSome?_singleton]

/-- The last header that matches a line and has a field for the severity has read one. -/
theorem exists_severity_of_last {before after : List Rule} {rule : Rule}
    (h : headerReadings (before ++ rule :: after) .null header = .ok readings)
    (hgives : rule.givesSeverity header = true)
    (hafter : ∀ later ∈ after, later.givesSeverity header = false) :
    ∃ text, rule.ownSeverity? header = some text ∧
      readings.reverse.findSome? (Entries.field? "severity") =
        some (.text (String.ofList text)) := by
  obtain ⟨hmatch, hdeclares⟩ := Bool.and_eq_true_iff.1 hgives
  have hmem : rule ∈ (before ++ rule :: after).filter fun rule =>
      (rule.regex.search header).isSome := List.mem_filter.2 ⟨by simp, hmatch⟩
  obtain ⟨record, -, hextract⟩ := exists_left_of_forall₂ (extract_of_headerReadings h).flip hmem
  obtain ⟨text, htext⟩ := Option.isSome_iff_exists.1
    ((declaresSeverity_of_extract hextract).symm.trans hdeclares)
  refine ⟨text, htext, ?_⟩
  rw [findSome?_headerReadings h, List.reverse_append, List.reverse_cons, List.append_assoc,
    List.findSome?_append, findSome?_of_not_gives hafter, Option.none_or, List.singleton_append,
    List.findSome?_cons, htext]
  rfl

end

/-! ## A header and a detail -/

/-- Where the severity of the record of a detail comes from: it is what the loop has read as one
from the detail, if this is not empty, otherwise the severity of the matcher. Without a severity of
the matcher it is the empty one that the loop has read, or, if the loop has no field for it, what
the last header with such a field has read from the header line. -/
structure IsResolved (headers : List Rule) (loop : Rule) (severity : Value)
    (header detail : List Char) (record : Record) : Prop where
  declared : loop.declaresSeverity = (loop.ownSeverity? detail).isSome
  captured : ∀ text, loop.ownSeverity? detail = some text → text ≠ [] →
    Entries.field? "severity" record = some (.text (String.ofList text))
  default : severity ≠ .null → (∀ text, loop.ownSeverity? detail = some text → text = []) →
    Entries.field? "severity" record = some severity
  empty : severity = .null → loop.ownSeverity? detail = some [] →
    Entries.field? "severity" record = some (.text "")
  inherited : severity = .null → loop.declaresSeverity = false →
    ∀ before rule after, headers = before ++ rule :: after → rule.givesSeverity header = true →
      (∀ later ∈ after, later.givesSeverity header = false) →
      ∃ text, rule.ownSeverity? header = some text ∧
        Entries.field? "severity" record = some (.text (String.ofList text))
  absent : severity = .null → loop.declaresSeverity = false →
    (∀ rule ∈ headers, rule.givesSeverity header = false) → record.has (.text "severity") = false

theorem isResolved_of_recordAt {headers : List Rule} {loop : Rule} {severity : Value}
    {lines : List (List Char)} {i : Nat} {record : Record}
    (hheaders : ∀ rule ∈ headers, rule.fields.IsDistinct) (hloop : loop.fields.IsDistinct)
    (h : RecordAt headers loop severity lines i record) :
    IsResolved headers loop severity (lines.getD (headerOf loop.regex lines i) [])
      (lines.getD i []) record := by
  obtain ⟨readings, fields, hreadings, hfields, -, hmerged⟩ := h
  generalize lines.getD (headerOf loop.regex lines i) [] = header at hreadings ⊢
  generalize lines.getD i [] = detail at hfields ⊢
  have hparts : ∀ part ∈ readings, part.IsDistinct := by
    intro part hpart
    obtain ⟨rule, hrule, hextract⟩ :=
      exists_left_of_forall₂ (extract_of_headerReadings hreadings) hpart
    exact isDistinct_of_extract (hheaders rule (List.mem_of_mem_filter hrule)) hextract
  have hfield : Entries.field? "severity" record =
      (resolveSeverity severity (loop.ownSeverity? detail)).or
        (readings.reverse.findSome? (Entries.field? "severity")) := by
    rw [← field?_of_extract hfields]
    exact hmerged.get?_eq hparts (isDistinct_of_extract hloop hfields) _
  have hdeclared := declaresSeverity_of_extract hfields
  -- Without a severity of the matcher and a field of the loop the headers are left.
  have hnone (hdeclares : loop.declaresSeverity = false) : loop.ownSeverity? detail = none := by
    rw [hdeclared] at hdeclares
    simpa using hdeclares
  refine ⟨hdeclared, fun text htext hne => ?_, fun hnull hempty => ?_, fun hnull hempty => ?_,
    fun hnull hdeclares before rule after hsplit hgives hafter => ?_,
    fun hnull hdeclares hgives => ?_⟩
  · rw [hfield, htext, resolveSeverity_of_ne_nil hne, Option.some_or]
  · rw [hfield, resolveSeverity_of_ne_null hnull hempty, Option.some_or]
  · subst hnull
    rw [hfield, hempty]
    rfl
  · subst hnull hsplit
    obtain ⟨text, htext, hlast⟩ := exists_severity_of_last hreadings hgives hafter
    refine ⟨text, htext, ?_⟩
    rw [hfield, hnone hdeclares, resolveSeverity_null, Option.map_none, Option.none_or, hlast]
  · subst hnull
    rw [hnone hdeclares, resolveSeverity_null, Option.map_none, Option.none_or,
      findSome?_headerReadings hreadings, findSome?_of_not_gives hgives] at hfield
    rw [Entries.has, show Entries.get? _ record = none from hfield]
    rfl

/-! ## All records -/

/-- Whether nothing in a matcher has a key twice; nothing in a document has. -/
def Source.HasDistinctKeys : Source → Prop
  | .value v => v.hasDistinctKeys = true
  | .description d => ∀ s ∈ d.pattern, s.fields.IsDistinct

theorem Source.HasDistinctKeys.fields {source : Source} {d : Description}
    (h : source.HasDistinctKeys) (hd : source.describe = .ok d) :
    ∀ s ∈ d.pattern, s.fields.IsDistinct := by
  cases source with
  | value v => exact isDistinct_fields_of_ofValue h hd
  | description given =>
    cases hd
    exact h

/-- **Which severity wins.** A matcher with a loop that finds records in an input finds one for each
detail of a text, in order, and the severity of each shows from the detail and the header before
it. -/
theorem sift_loop_severity {source : Source} {input : Value} {d : Description}
    {records : List Record} (hkeys : source.HasDistinctKeys) (hd : source.describe = .ok d)
    (hmode : d.mode = .ok .loop) (h : sift source input = .ok records) :
    ∃ headers loop text, rulesFrom 0 d.pattern = .ok (headers ++ [loop]) ∧ headers ≠ [] ∧
      input = .text text ∧
      List.Forall₂ (fun i => IsResolved headers loop d.severity
        ((Text.lines text.toList).getD (headerOf loop.regex (Text.lines text.toList) i) [])
        ((Text.lines text.toList).getD i []))
        (detailsOf loop.regex (Text.lines text.toList)) records := by
  obtain ⟨d', mode, text, hd', hmode', rfl, hrecords⟩ := exists_job_of_sift h
  cases hd.symm.trans hd'
  cases hmode.symm.trans hmode'
  obtain ⟨rules, hrules, -⟩ := Outcome.bind_eq_ok.1 hrecords
  obtain ⟨headers, loop, rfl, hne⟩ := exists_rules hmode hrules
  have hdistinct := isDistinct_fields_of_rulesFrom (hkeys.fields hd) hrules
  refine ⟨headers, loop, text, hrules, hne, rfl, ?_⟩
  rw [records_loop hrules] at hrecords
  refine (recordAt_of_loopRecords hrecords).imp fun i record hrecord => ?_
  exact isResolved_of_recordAt (fun rule hrule => hdistinct rule (List.mem_append_left _ hrule))
    (hdistinct loop (by simp)) hrecord

/-- A matcher of which two headers may read a severity from a header line, but not the loop. -/
def ratedParts : Description where
  owner := .text "parts"
  pattern := [⟨"= (.)", [(.text "severity", .int 1)], false⟩,
    ⟨"= .(.)", [(.text "severity", .int 1)], false⟩,
    ⟨"-(.)", [(.text "message", .int 1)], true⟩]
  severity := .null

/-- The second header reads a severity from the first header line only. -/
theorem sift_loop_severity_ratedParts :
    (Source.description ratedParts).HasDistinctKeys ∧ ratedParts.mode = .ok .loop ∧
    ∃ records headers loop,
      records = [[(.text "severity", .text "2"), (.text "message", .text "x")],
        [(.text "severity", .text "3"), (.text "message", .text "y")]] ∧
      sift (.description ratedParts) (.text "= 12\n-x\n= 3\n-y") = .ok records ∧
      rulesFrom 0 ratedParts.pattern = .ok (headers ++ [loop]) ∧
      List.Forall₂ (fun i => IsResolved headers loop .null
        ((Text.lines "= 12\n-x\n= 3\n-y".toList).getD
          (headerOf loop.regex (Text.lines "= 12\n-x\n= 3\n-y".toList) i) [])
        ((Text.lines "= 12\n-x\n= 3\n-y".toList).getD i []))
        (detailsOf loop.regex (Text.lines "= 12\n-x\n= 3\n-y".toList)) records := by
  have hkeys : (Source.description ratedParts).HasDistinctKeys := by
    show ∀ s ∈ ratedParts.pattern, s.fields.IsDistinct
    decide
  have hmode : ratedParts.mode = .ok .loop := rfl
  have hsift : sift (.description ratedParts) (.text "= 12\n-x\n= 3\n-y") =
      .ok [[(.text "severity", .text "2"), (.text "message", .text "x")],
        [(.text "severity", .text "3"), (.text "message", .text "y")]] := by decide +kernel
  obtain ⟨headers, loop, text, hrules, -, htext, hresolved⟩ :=
    sift_loop_severity hkeys rfl hmode hsift
  cases htext
  exact ⟨hkeys, hmode, _, headers, loop, rfl, hsift, hrules, hresolved⟩

end LogSift.Matcher
