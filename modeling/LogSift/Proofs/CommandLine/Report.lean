import LogSift.CommandLine.Report
import LogSift.Proofs.JsonValue
import LogSift.Proofs.Matcher.Provenance

/-!
# What reports can show

Reports rely on records that map texts to texts. Records of a matcher from a JSON document do, apart
from the severity of the matcher (`IsReportable`). A severity that is no text is the only fault of
their reports (`IsSeverityFault`).

* `isReportable_of_sift`: the records that a matcher finds.
* `jsonReport_ok`: records can be written as JSON.
* `fault_of_summary`: what is wrong with records that have no summary.
* `hasError_eq_true_iff`, `fault_of_hasError`: whether one of the records is an error (`IsError`),
  and what is wrong with records of which this cannot be said.
-/

namespace LogSift.CommandLine

open Matcher (Record Rule Mode Description sift)

/-- Whether the names in a record are texts, and its values as well, unless the severity of a
matcher is another value. -/
structure IsReportable (severity : Value) (r : Record) : Prop where
  names : ∀ e ∈ r, ∃ name, e.1 = .text name
  values : ∀ e ∈ r, (∃ s, e.2 = .text s) ∨ e = (.text "severity", severity)

/-- Whether a fault comes from the severity of a matcher: it is no text, and there is a record that
has it. -/
structure IsSeverityFault (severity : Value) (records : List Record) (fault : Fault) : Prop where
  notText : ∀ s, severity ≠ .text s
  found : ∃ r ∈ records, Entries.field? "severity" r = some severity
  fault : fault = .noLowerCase severity.fullKind

theorem IsSeverityFault.mono {severity : Value} {records more : List Record} {fault : Fault}
    (h : IsSeverityFault severity records fault) (hsub : records ⊆ more) :
    IsSeverityFault severity more fault := by
  obtain ⟨r, hr, hseverity⟩ := h.found
  exact ⟨h.notText, ⟨r, hsub hr, hseverity⟩, h.fault⟩

variable {severity : Value} {r : Record} {records : List Record} {fault : Fault}

/-! ## Records of a matcher -/

/-- Whether the fields of rules have texts for their names. -/
def HaveTextNames (rules : List Rule) : Prop :=
  ∀ rule ∈ rules, ∀ key, rule.fields.has key = true → ∃ name, key = .text name

theorem haveTextNames_of_json {items : List Value} {rules : List Rule}
    (hjson : ∀ item ∈ items, item.isJson = true)
    (h : rules.map (fun rule => rule.fields.keys) = items.map Matcher.fieldNames) :
    HaveTextNames rules := by
  intro rule hrule key hkey
  obtain ⟨own, hown, hsame⟩ := Entries.has_iff.1 hkey
  obtain ⟨item, hitem, hkeys⟩ := List.mem_map.1
    (h ▸ List.mem_map_of_mem (f := fun rule : Rule => rule.fields.keys) hrule)
  rw [← hkeys] at hown
  unfold Matcher.fieldNames at hown
  split at hown
  · next entries =>
    obtain ⟨e, he, rfl⟩ := List.mem_map.1 (List.mem_of_mem_filter hown)
    obtain ⟨⟨name, hname⟩, -⟩ := Value.entriesJson_iff.1 (hjson _ hitem) e he
    rw [hname] at hsame
    exact ⟨name, Scalar.sameKey_text_iff.1 hsame⟩
  · cases hown

theorem isReportable_of_areTraced {mode : Mode} {rules : List Rule} {lines : List (List Char)}
    (hnames : HaveTextNames rules) (h : Matcher.AreTraced mode rules severity lines records) :
    ∀ r ∈ records, IsReportable severity r := by
  intro r hr
  cases mode with
  | single =>
    obtain ⟨rule, rfl, hall⟩ := h
    obtain ⟨line, -, hread⟩ := Matcher.exists_left_of_forall₂ hall hr
    have hkeys := hnames rule (List.mem_singleton_self _)
    constructor
    · intro e he
      rcases hread.values e he with ⟨rfl, -⟩ | ⟨hname, -⟩
      · exact ⟨_, rfl⟩
      · exact hkeys e.1 (Entries.has_iff.2 ⟨e.1, hname, Scalar.sameKey_refl _⟩)
    · intro e he
      rcases hread.values e he with ⟨heq, -⟩ | ⟨-, s, hs, -⟩
      · exact .inr heq
      · exact .inl ⟨s, hs⟩
  | loop =>
    obtain ⟨headers, loop, rfl, hall⟩ := h
    obtain ⟨i, -, hjoined⟩ := Matcher.exists_left_of_forall₂ hall hr
    constructor
    · intro e he
      have hhas : r.has e.1 = true :=
        Entries.has_iff.2 ⟨e.1, List.mem_map_of_mem he, Scalar.sameKey_refl _⟩
      rcases (hjoined.has_iff e.1).1 hhas with hloop | ⟨rule, hrule, -, hheader⟩ | ⟨hkey, -⟩
      · exact hnames loop (by simp) e.1 hloop
      · exact hnames rule (List.mem_append_left _ hrule) e.1 hheader
      · exact ⟨_, hkey⟩
    · intro e he
      rcases hjoined.values e he with ⟨heq, -⟩ | ⟨s, hs, -⟩
      · exact .inr heq
      · exact .inl ⟨s, hs⟩

/-- The records that a matcher from a JSON document finds. -/
theorem isReportable_of_sift {entry input : Value} {m : Description} (hjson : entry.isJson = true)
    (hbuild : Description.ofValue entry = .ok m) (h : sift (.description m) input = .ok records) :
    ∀ r ∈ records, IsReportable m.severity r := by
  obtain ⟨mode, rules, text, hrules, htraced⟩ := Matcher.areTraced_of_sift hbuild h
  obtain ⟨entries, rfl, hm⟩ := Description.ofValue_eq_ok_iff.1 hbuild
  obtain ⟨given, items, hgiven, hitems, hpattern⟩ := hm.pattern
  have hnames : HaveTextNames rules :=
    haveTextNames_of_json (Matcher.isJson_of_itemsOf (Entries.isJson_of_get? hjson hgiven) hitems)
      (Matcher.keys_of_rules hpattern hrules)
  exact isReportable_of_areTraced hnames htraced

/-! ## Records in JSON -/

theorem IsReportable.entriesJson (hjson : severity.isJson = true) (h : IsReportable severity r) :
    Value.entriesJson r = true := by
  refine Value.entriesJson_iff.2 fun e he => ⟨h.names e he, ?_⟩
  rcases h.values e he with ⟨s, hs⟩ | rfl
  · rw [hs]
    rfl
  · exact hjson

theorem IsReportable.isShowable (hjson : severity.isJson = true) (h : IsReportable severity r) :
    isShowable r = true := by
  refine List.all_eq_true.2 fun e he => ?_
  obtain ⟨⟨name, hname⟩, hv⟩ := Value.entriesJson_iff.1 (h.entriesJson hjson) e he
  change (e.1.isShowable && e.2.isShowable) = true
  rw [hname, Value.isShowable_of_isJson hv]
  rfl

theorem jsonReport_ok (hjson : severity.isJson = true)
    (h : ∀ r ∈ records, IsReportable severity r) : ∃ text, jsonReport records = .ok text := by
  have hrecords : (Value.list (records.map .map)).isJson = true := by
    refine Value.itemsJson_iff.2 fun v hv => ?_
    obtain ⟨r, hr, rfl⟩ := List.mem_map.1 hv
    exact (h r hr).entriesJson hjson
  obtain ⟨text, htext⟩ := Json.exists_print hrecords
  exact ⟨text, by rw [jsonReport, htext]⟩

/-! ## Severities -/

theorem lowerSeverity_of_not_text (hjson : severity.isJson = true)
    (h : ∀ s, severity ≠ .text s) :
    lowerSeverity severity = .error (.noLowerCase severity.fullKind) := by
  unfold lowerSeverity
  split
  · next s => exact absurd rfl (h s)
  · cases hjson
  · rfl

/-- The severity of a record in lower case is a text, or else the severity of the matcher is at
fault. -/
theorem IsReportable.lowerSeverity_cases (hjson : severity.isJson = true)
    (h : IsReportable severity r) (default : String) :
    (∃ s, lowerSeverity (severityOr default r) = .ok (.text s)) ∨
      ∃ fault, lowerSeverity (severityOr default r) = .error fault ∧
        IsSeverityFault severity [r] fault := by
  unfold severityOr
  cases hfield : Entries.field? "severity" r with
  | none => exact .inl ⟨_, rfl⟩
  | some v =>
    rw [Option.getD_some]
    obtain ⟨key, hmem, -⟩ := Entries.get?_eq_some hfield
    rcases h.values _ hmem with ⟨s, hs⟩ | heq
    · cases hs
      exact .inl ⟨_, rfl⟩
    · obtain ⟨-, rfl⟩ := Prod.mk.inj heq
      by_cases htext : ∃ s, v = .text s
      · obtain ⟨s, rfl⟩ := htext
        exact .inl ⟨_, rfl⟩
      · have hnot : ∀ s, v ≠ .text s := fun s hs => htext ⟨s, hs⟩
        exact .inr ⟨_, lowerSeverity_of_not_text hjson hnot, hnot, ⟨r, by simp, hfield⟩, rfl⟩

/-- The severities of records in lower case are texts. -/
theorem exists_texts_of_lowerSeverities {severities : List Scalar}
    (hjson : severity.isJson = true) (h : ∀ r ∈ records, IsReportable severity r)
    (hlower : lowerSeverities records = .ok severities) :
    ∀ s ∈ severities, ∃ text, s = .text text := by
  induction records generalizing severities with
  | nil =>
    cases hlower
    simp
  | cons r records ih =>
    obtain ⟨hr, hrecords⟩ := List.forall_mem_cons.1 h
    obtain ⟨s, hs, hlower⟩ := Outcome.bind_eq_ok.1 hlower
    obtain ⟨more, hmore, hlower⟩ := Outcome.bind_eq_ok.1 hlower
    cases hlower
    refine List.forall_mem_cons.2 ⟨?_, ih hrecords hmore⟩
    rcases hr.lowerSeverity_cases hjson "unknown" with ⟨text, htext⟩ | ⟨fault, hfault, -⟩
    · cases hs.symm.trans htext
      exact ⟨text, rfl⟩
    · cases hs.symm.trans hfault

theorem fault_of_lowerSeverities (hjson : severity.isJson = true)
    (h : ∀ r ∈ records, IsReportable severity r) (hfault : lowerSeverities records = .error fault) :
    IsSeverityFault severity records fault := by
  induction records with
  | nil => cases hfault
  | cons r records ih =>
    obtain ⟨hr, hrecords⟩ := List.forall_mem_cons.1 h
    rcases Outcome.bind_eq_error.1 hfault with hfault | ⟨s, -, hfault⟩
    · rcases hr.lowerSeverity_cases hjson "unknown" with ⟨text, htext⟩ | ⟨other, hother, hodd⟩
      · cases hfault.symm.trans htext
      · cases hfault.symm.trans hother
        exact hodd.mono (by simp)
    · rcases Outcome.bind_eq_error.1 hfault with hfault | ⟨more, -, hfault⟩
      · exact (ih hrecords hfault).mono (List.subset_cons_self _ _)
      · cases hfault

/-- Whether a record is an error by its severity, in any case. -/
def IsError (r : Record) : Prop :=
  ∃ s, Entries.field? "severity" r = some (.text s) ∧ Unicode.lowerText s = "error"

theorem lowerSeverity_eq_error_iff {s : Scalar}
    (h : lowerSeverity (severityOr "" r) = .ok s) : s = .text "error" ↔ IsError r := by
  unfold severityOr at h
  unfold IsError
  cases hfield : Entries.field? "severity" r with
  | none =>
    rw [hfield] at h
    cases h
    simp [show Unicode.lowerText "" = "" by decide]
  | some v =>
    rw [hfield, Option.getD_some] at h
    unfold lowerSeverity at h
    split at h
    · cases h
      simp
    · cases h
      simp
    · cases h

/-- What is said about records is whether one of them is an error. -/
theorem hasError_eq_true_iff {found : Bool} (h : hasError records = .ok found) :
    found = true ↔ ∃ r ∈ records, IsError r := by
  induction records with
  | nil =>
    cases h
    simp
  | cons r records ih =>
    rw [hasError] at h
    obtain ⟨s, hs, h⟩ := Outcome.bind_eq_ok.1 h
    have herror := lowerSeverity_eq_error_iff hs
    simp only [List.mem_cons, exists_eq_or_imp]
    split at h
    · next htext =>
      cases h
      simp [herror.1 htext]
    · next htext =>
      rw [ih h]
      simp [mt herror.2 htext]

/-- What is wrong with records of which it cannot be said whether one of them is an error. -/
theorem fault_of_hasError (hjson : severity.isJson = true)
    (h : ∀ r ∈ records, IsReportable severity r) (hfault : hasError records = .error fault) :
    IsSeverityFault severity records fault := by
  induction records with
  | nil => cases hfault
  | cons r records ih =>
    obtain ⟨hr, hrecords⟩ := List.forall_mem_cons.1 h
    rw [hasError] at hfault
    rcases Outcome.bind_eq_error.1 hfault with hfault | ⟨s, -, hfault⟩
    · rcases hr.lowerSeverity_cases hjson "" with ⟨text, htext⟩ | ⟨other, hother, hodd⟩
      · cases hfault.symm.trans htext
      · cases hfault.symm.trans hother
        exact hodd.mono (by simp)
    · split at hfault
      · cases hfault
      · exact (ih hrecords hfault).mono (List.subset_cons_self _ _)

/-! ## Summaries -/

theorem fst_of_mem_countOne {s : Scalar} {counts : List (Scalar × Nat)} {c : Scalar × Nat}
    (h : c ∈ countOne s counts) : c.1 = s ∨ ∃ n, (c.1, n) ∈ counts := by
  induction counts with
  | nil =>
    rw [countOne, List.mem_singleton] at h
    exact .inl (congrArg Prod.fst h)
  | cons entry counts ih =>
    obtain ⟨t, n⟩ := entry
    rw [countOne] at h
    split at h
    · next hsame =>
      rcases List.mem_cons.1 h with rfl | h
      · exact .inl hsame
      · exact .inr ⟨c.2, List.mem_cons_of_mem _ h⟩
    · rcases List.mem_cons.1 h with rfl | h
      · exact .inr ⟨n, List.mem_cons_self⟩
      · refine (ih h).imp_right ?_
        rintro ⟨m, hm⟩
        exact ⟨m, List.mem_cons_of_mem _ hm⟩

theorem fst_of_mem_foldl_countOne {severities : List Scalar} {counts : List (Scalar × Nat)}
    {c : Scalar × Nat} (h : c ∈ severities.foldl (fun counts s => countOne s counts) counts) :
    c.1 ∈ severities ∨ ∃ n, (c.1, n) ∈ counts := by
  induction severities generalizing counts with
  | nil => exact .inr ⟨c.2, h⟩
  | cons s severities ih =>
    rcases ih h with hmem | ⟨n, hn⟩
    · exact .inl (List.mem_cons_of_mem _ hmem)
    · rcases fst_of_mem_countOne hn with hs | hold
      · exact .inl (hs ▸ List.mem_cons_self)
      · exact .inr hold

/-- What is counted are the severities. -/
theorem mem_of_mem_tally {severities : List Scalar} {c : Scalar × Nat}
    (h : c ∈ tally severities) : c.1 ∈ severities := by
  rcases fst_of_mem_foldl_countOne h with hmem | ⟨n, hn⟩
  · exact hmem
  · cases hn

/-- Counts of texts can be sorted. -/
theorem exists_sortCounts {counts : List (Scalar × Nat)} (h : ∀ c ∈ counts, ∃ s, c.1 = .text s) :
    ∃ sorted, sortCounts counts = .ok sorted := by
  cases counts with
  | nil => exact ⟨_, rfl⟩
  | cons first rest =>
    obtain ⟨⟨s, hs⟩, hrest⟩ := List.forall_mem_cons.1 h
    have hkind : rest.find? (fun c => c.1.fullKind != first.1.fullKind) = none := by
      rw [List.find?_eq_none]
      intro c hc
      obtain ⟨t, ht⟩ := hrest c hc
      rw [hs, ht]
      simp [Scalar.fullKind, Scalar.kind]
    unfold sortCounts
    simp only [hkind]
    exact ⟨_, rfl⟩

/-- What is wrong with records that have no summary. -/
theorem fault_of_summary {owner : Value} (hjson : severity.isJson = true)
    (h : ∀ r ∈ records, IsReportable severity r) (hfault : summary owner records = .error fault) :
    IsSeverityFault severity records fault := by
  have hlines : summaryLines owner records = .error fault := Outcome.map_eq_error.1 hfault
  unfold summaryLines at hlines
  rcases Outcome.bind_eq_error.1 hlines with hlower | ⟨severities, hlower, hlines⟩
  · exact fault_of_lowerSeverities hjson h hlower
  -- Severities that are all texts have an order, and all records can be shown.
  have htexts := exists_texts_of_lowerSeverities hjson h hlower
  obtain ⟨sorted, hsorted⟩ := exists_sortCounts fun c hc => htexts c.1 (mem_of_mem_tally hc)
  have hshow : records.all isShowable = true :=
    List.all_eq_true.2 fun r hr => (h r hr).isShowable hjson
  rw [hsorted, Outcome.ok_bind, hshow] at hlines
  cases hlines

end LogSift.CommandLine
