import LogSift.Proofs.Matcher.Faults

/-!
# Where values come from

Every value of a record is the severity of the matcher or has been cut out of a line that the record
belongs to (`IsCutFrom`).

* `isReading_of_extract`: what a rule reads from a line (`IsReading`).
* `isJoined_of_recordAt`: what a header and a detail give together (`IsJoined`).
* `areTraced_of_sift`: both for all records of a description that has been built (`AreTraced`).
* `sift_provenance`: both for all records of a matcher, with the fields that its sub-patterns
  declare in writing (`fieldNames`).
-/

namespace LogSift.Matcher

/-- Whether a value is a text cut out of a line, without a line feed and without blanks at its
ends. -/
def IsCutFrom (line : List Char) (v : Value) : Prop :=
  ∃ text : String, v = .text text ∧ text.toList <:+: line ∧ '\n' ∉ text.toList ∧
    Text.IsTrimmed Unicode.isSpace text.toList

/-! ## One line -/

theorem isCutFrom_of_isCaptured {groups : Nat} {m : Regex.Match} {group v : Value}
    (hline : '\n' ∉ m.text) (h : IsCaptured groups m group v) : IsCutFrom m.text v := by
  obtain ⟨n, part, -, hcapture, -, rfl⟩ := h
  have hgroup : m.group? n.toNat = some part := by
    unfold capture? at hcapture
    split at hcapture
    · exact hcapture
    · cases hcapture
  have hpart : Text.trim part <:+: m.text :=
    (Text.isInfix_trimBy Unicode.isSpace part).trans (Regex.Match.isInfix_of_group? hgroup)
  refine ⟨_, rfl, ?_⟩
  rw [String.toList_ofList]
  exact ⟨hpart, fun hmem => hline (hpart.subset hmem), Text.isTrimmed_trimBy _ _⟩

/-- What can be said of a record that has been read from one line: its keys are those of the fields
in order, and the severity after them if it is not among them, and each value is the severity of the
matcher or has been cut out of the line. -/
structure IsReading (names : List Scalar) (severity : Value) (line : List Char)
    (record : Record) : Prop where
  keys : record.keys = names ∨
    severity ≠ .null ∧ .text "severity" ∉ names ∧ record.keys = names ++ [.text "severity"]
  has_severity : severity ≠ .null → .text "severity" ∈ record.keys
  values : ∀ e ∈ record, e = (.text "severity", severity) ∧ severity ≠ .null ∨
    e.1 ∈ names ∧ IsCutFrom line e.2

/-- A record stays as it is if there is no severity to put in, or if it has one of its own. -/
theorem withSeverity_cases (severity : Value) (record : Record) :
    withSeverity severity record = record ∧
        (severity ≠ .null → record.has (.text "severity") = true) ∨
      withSeverity severity record = record.set (.text "severity") severity ∧
        severity ≠ .null := by
  unfold withSeverity
  split
  · exact .inl ⟨rfl, fun hne => absurd rfl hne⟩
  · next hnull =>
    dsimp only
    split
    · next hown =>
      refine .inl ⟨rfl, fun _ => ?_⟩
      unfold Entries.has
      cases hfield : Entries.get? (.text "severity") record with
      | none => simp [Entries.field?, hfield] at hown
      | some v => rfl
    · exact .inr ⟨rfl, hnull⟩

/-- A record that has a value at each of its fields, with the severity put in. -/
theorem isReading_withSeverity {severity : Value} {line : List Char} {record : Record}
    (h : ∀ e ∈ record, IsCutFrom line e.2) :
    IsReading record.keys severity line (withSeverity severity record) := by
  have hcut : ∀ e ∈ record, e.1 ∈ record.keys ∧ IsCutFrom line e.2 := fun e he =>
    ⟨List.mem_map_of_mem he, h e he⟩
  rcases withSeverity_cases severity record with ⟨hsame, hhas⟩ | ⟨hset, hnull⟩
  · rw [hsame]
    exact ⟨.inl rfl, fun hne => Entries.has_text_iff.1 (hhas hne), fun e he => .inr (hcut e he)⟩
  · rw [hset]
    refine ⟨?_, fun _ => ?_, fun e he => ?_⟩
    · rw [Entries.keys_set]
      split
      · exact .inl rfl
      · next hnew => exact .inr ⟨hnull, mt Entries.has_text_iff.2 hnew, rfl⟩
    · rw [← Entries.has_text_iff, Entries.has, Entries.get?_set, if_pos (Scalar.sameKey_refl _)]
      rfl
    · rcases Entries.mem_set he with he | ⟨hv, hkey⟩
      · exact .inr (hcut e he)
      · have hname : e.1 = .text "severity" := by
          rcases hkey with hkey | ⟨-, hkey⟩
          · exact hkey
          · rwa [Scalar.sameKey_comm, Scalar.sameKey_text_iff] at hkey
        exact .inl ⟨Prod.ext hname hv, hnull⟩

theorem isReading_of_extract {rule : Rule} {severity : Value} {line : List Char} {record : Record}
    (hline : '\n' ∉ line) (h : rule.extract severity line = .ok (some record)) :
    IsReading rule.fields.keys severity line record := by
  obtain ⟨m, own, hm, -, hown, rfl⟩ := Rule.extract_eq_some_iff.1 h
  have hread := forall₂_of_fieldValues hown
  have hkeys : rule.fields.keys = own.keys :=
    map_eq_map_of_forall₂ (hread.imp fun field e he => he.1.symm)
  rw [hkeys]
  refine isReading_withSeverity fun e he => ?_
  obtain ⟨field, -, -, hcaptured⟩ := exists_left_of_forall₂ hread he
  rw [← Regex.text_of_search hm] at hline ⊢
  exact isCutFrom_of_isCaptured hline hcaptured

namespace IsReading

variable {fields : Entries Value} {severity : Value} {line : List Char} {record : Record}

theorem mem_keys_iff (h : IsReading fields.keys severity line record) {key : Scalar} :
    key ∈ record.keys ↔ key ∈ fields.keys ∨ key = .text "severity" ∧ severity ≠ .null := by
  rcases h.keys with hkeys | ⟨hne, -, hkeys⟩
  · rw [hkeys]
    refine ⟨.inl, ?_⟩
    rintro (hkey | ⟨rfl, hne⟩)
    · exact hkey
    · exact hkeys ▸ h.has_severity hne
  · simp [hkeys, hne]

theorem has_iff (h : IsReading fields.keys severity line record) {key : Scalar} :
    record.has key = true ↔
      fields.has key = true ∨ key = .text "severity" ∧ severity ≠ .null := by
  simp only [Entries.has_iff, h.mem_keys_iff]
  constructor
  · rintro ⟨name, hname | ⟨rfl, hne⟩, hsame⟩
    · exact .inl ⟨name, hname, hsame⟩
    · exact .inr ⟨Scalar.sameKey_text_iff.1 hsame, hne⟩
  · rintro (⟨name, hname, hsame⟩ | ⟨rfl, hne⟩)
    · exact ⟨name, .inl hname, hsame⟩
    · exact ⟨_, .inr ⟨rfl, hne⟩, Scalar.sameKey_refl _⟩

/-- A value that is found at a key of a reading. -/
theorem value_of_sameKey (h : IsReading fields.keys severity line record) {name key : Scalar}
    {v : Value} (hmem : (name, v) ∈ record) (hkey : name.sameKey key = true) :
    (key, v) = (.text "severity", severity) ∧ severity ≠ .null ∨
      fields.has key = true ∧ IsCutFrom line v := by
  rcases h.values _ hmem with ⟨heq, hne⟩ | ⟨hname, hcut⟩
  · cases heq
    rw [Scalar.sameKey_text_iff] at hkey
    exact .inl ⟨by rw [hkey], hne⟩
  · exact .inr ⟨Entries.has_iff.2 ⟨name, hname, hkey⟩, hcut⟩

end IsReading

/-! ## A header and a detail -/

/-- What can be said of a record that belongs to a header and a detail: it has the fields of the
loop, those of the headers that match the header line and the severity if there is one, and each
value is the severity of the matcher or has been cut out of a line, for the fields of the loop out
of the detail and for others out of the header line. -/
structure IsJoined (headers : List Rule) (loop : Rule) (severity : Value)
    (header detail : List Char) (record : Record) : Prop where
  distinct : record.IsDistinct
  has_iff : ∀ key, record.has key = true ↔
    loop.fields.has key = true ∨
    (∃ rule ∈ headers, (rule.regex.search header).isSome ∧ rule.fields.has key = true) ∨
    key = .text "severity" ∧ severity ≠ .null
  values : ∀ e ∈ record, e = (.text "severity", severity) ∧ severity ≠ .null ∨
    IsCutFrom (if loop.fields.has e.1 then detail else header) e.2

/-- The readings of the headers that match a line. -/
theorem exists_rule_of_headerReadings {headers : List Rule} {severity : Value} {line : List Char}
    {readings : List Record} {reading : Record} (hline : '\n' ∉ line)
    (h : headerReadings headers severity line = .ok readings) (hreading : reading ∈ readings) :
    ∃ rule ∈ headers, (rule.regex.search line).isSome ∧
      IsReading rule.fields.keys severity line reading := by
  obtain ⟨rule, hrule, hextract⟩ := exists_left_of_forall₂ (extract_of_headerReadings h) hreading
  obtain ⟨hmem, hmatch⟩ := List.mem_filter.1 hrule
  exact ⟨rule, hmem, hmatch, isReading_of_extract hline hextract⟩

theorem exists_reading_of_headerReadings {headers : List Rule} {rule : Rule} {severity : Value}
    {line : List Char} {readings : List Record} (hline : '\n' ∉ line)
    (h : headerReadings headers severity line = .ok readings) (hrule : rule ∈ headers)
    (hmatch : (rule.regex.search line).isSome) :
    ∃ reading ∈ readings, IsReading rule.fields.keys severity line reading := by
  have hmem : rule ∈ headers.filter fun rule => (rule.regex.search line).isSome :=
    List.mem_filter.2 ⟨hrule, hmatch⟩
  obtain ⟨reading, hreading, hextract⟩ :=
    exists_left_of_forall₂ (extract_of_headerReadings h).flip hmem
  exact ⟨reading, hreading, isReading_of_extract hline hextract⟩

theorem isJoined_of_recordAt {headers : List Rule} {loop : Rule} {severity : Value}
    {lines : List (List Char)} {i : Nat} {record : Record}
    (hlines : ∀ i, '\n' ∉ lines.getD i [])
    (h : RecordAt headers loop severity lines i record) :
    IsJoined headers loop severity (lines.getD (headerOf loop.regex lines i) [])
      (lines.getD i []) record := by
  have hdistinct := h.isDistinct
  obtain ⟨readings, fields, hreadings, hfields, -, hmerged⟩ := h
  have hloop := isReading_of_extract (hlines i) hfields
  refine ⟨hdistinct, fun key => ?_, fun e he => ?_⟩
  · -- The last part is what the loop has read, the parts before it what headers have read.
    rw [hmerged.has_iff]
    constructor
    · rintro ⟨part, hpart, hkey⟩
      rcases List.mem_append.1 hpart with hpart | hpart
      · obtain ⟨rule, hrule, hmatch, hread⟩ :=
          exists_rule_of_headerReadings (hlines _) hreadings hpart
        rcases hread.has_iff.1 hkey with hkey | hseverity
        · exact .inr (.inl ⟨rule, hrule, hmatch, hkey⟩)
        · exact .inr (.inr hseverity)
      · rw [List.mem_singleton.1 hpart, hloop.has_iff] at hkey
        exact hkey.imp_right .inr
    · have hlast : fields ∈ readings ++ [fields] := by simp
      rintro (hkey | ⟨rule, hrule, hmatch, hkey⟩ | hseverity)
      · exact ⟨fields, hlast, hloop.has_iff.2 (.inl hkey)⟩
      · obtain ⟨reading, hreading, hread⟩ :=
          exists_reading_of_headerReadings (hlines _) hreadings hrule hmatch
        exact ⟨reading, List.mem_append_left _ hreading, hread.has_iff.2 (.inl hkey)⟩
      · exact ⟨fields, hlast, hloop.has_iff.2 (.inr hseverity)⟩
  · rcases hmerged.exists_of_mem hdistinct he with
      ⟨name, hmem, hkey⟩ | ⟨hnew, part, hpart, name, hmem, hkey⟩
    · refine (hloop.value_of_sameKey hmem hkey).imp_right fun ⟨hhas, hcut⟩ => ?_
      rwa [if_pos hhas]
    · -- What the loop has read has all its fields, so a key that it lacks is not one of them.
      obtain ⟨rule, -, -, hread⟩ := exists_rule_of_headerReadings (hlines _) hreadings hpart
      refine (hread.value_of_sameKey hmem hkey).imp_right fun ⟨_, hcut⟩ => ?_
      rwa [if_neg fun hhas => Bool.eq_false_iff.1 hnew (hloop.has_iff.2 (.inl hhas))]

/-! ## All records -/

/-- Whether records are those of lines, in order, and show where their values come from: without a
loop they belong to the lines that match, with one to the details and the headers before them. -/
def AreTraced (mode : Mode) (rules : List Rule) (severity : Value) (lines : List (List Char))
    (records : List Record) : Prop :=
  match mode with
  | .single => ∃ rule, rules = [rule] ∧
    List.Forall₂ (IsReading rule.fields.keys severity)
      (lines.filter fun line => (rule.regex.search line).isSome) records
  | .loop => ∃ headers loop, rules = headers ++ [loop] ∧
    List.Forall₂ (fun i => IsJoined headers loop severity
      (lines.getD (headerOf loop.regex lines i) []) (lines.getD i []))
      (detailsOf loop.regex lines) records

theorem areTraced_of_areAllRecords {mode : Mode} {rules : List Rule} {severity : Value}
    {lines : List (List Char)} {records : List Record} (hlines : ∀ line ∈ lines, '\n' ∉ line)
    (h : AreAllRecords mode rules severity lines records) :
    AreTraced mode rules severity lines records := by
  cases mode with
  | single =>
    obtain ⟨rule, hrules, hall⟩ := h
    refine ⟨rule, hrules, ?_⟩
    have hkept : ∀ line ∈ (lines.filter fun line => (rule.regex.search line).isSome),
        '\n' ∉ line := fun line hline => hlines line (List.mem_of_mem_filter hline)
    exact ((List.forall₂_and_left _ _).2 ⟨hkept, hall⟩).imp fun line record hread =>
      isReading_of_extract hread.1 hread.2
  | loop =>
    obtain ⟨headers, loop, hrules, hall⟩ := h
    refine ⟨headers, loop, hrules, hall.imp fun i record => isJoined_of_recordAt fun i => ?_⟩
    rw [List.getD_eq_getElem?_getD]
    cases hline : lines[i]? with
    | none => simp
    | some line => exact hlines line (List.mem_of_getElem? hline)

/-- The records of a description that has been built show where their values come from. -/
theorem areTraced_of_sift {v input : Value} {d : Description} {records : List Record}
    (hbuild : Description.ofValue v = .ok d) (h : sift (.description d) input = .ok records) :
    ∃ mode rules text, rulesFrom 0 d.pattern = .ok rules ∧
      AreTraced mode rules d.severity (Text.lines text) records := by
  obtain ⟨d', mode, text, hd, hmode, -, hrecords⟩ := exists_job_of_sift h
  cases hd
  obtain ⟨rules, hrules⟩ := exists_rules_of_ofValue hbuild
  exact ⟨mode, rules, text.toList, hrules, areTraced_of_areAllRecords
    (fun line hline => Text.not_mem_of_mem_splitOn hline)
    (areAllRecords_of_records hmode hrules hrecords)⟩

/-! ## Matchers in writing -/

/-- The names of the fields that a sub-pattern declares in writing. -/
def fieldNames : Value → List Scalar
  | .map entries => (Entries.keys entries).filter fun key => !isReserved key
  | _ => []

theorem keys_of_rules {items : List Value} {pattern : List SubPattern} {rules : List Rule}
    (hpattern : subPatternsFrom 0 items = .ok pattern) (hrules : rulesFrom 0 pattern = .ok rules) :
    rules.map (fun rule => rule.fields.keys) = items.map fieldNames := by
  have hnames : List.Forall₂ (fun item s => fieldNames item = s.fields.keys) items pattern := by
    refine (subPatternsFrom_eq_ok_iff.1 hpattern).imp fun item s hs => ?_
    obtain ⟨entries, rfl, hs⟩ := hs
    exact (keys_of_fieldsOf hs.fields).symm
  have hkeys : List.Forall₂ (fun s rule => s.fields.keys = rule.fields.keys) pattern rules :=
    (rulesFrom_eq_ok.1 hrules).imp fun s rule hs => by rw [hs.2]
  exact (map_eq_map_of_forall₂ hkeys).symm.trans (map_eq_map_of_forall₂ hnames).symm

/-- **Values come from their lines.** A matcher in writing that finds records in an input has a list
of sub-patterns in writing, and rules with the fields that these declare. The input is a text, and
the records belong to lines of it and show where their values come from. -/
theorem sift_provenance {v input : Value} {records : List Record}
    (h : sift (.value v) input = .ok records) :
    ∃ entries given items d mode rules text, v = .map entries ∧
      Entries.field? "pattern" entries = some given ∧ itemsOf given = .ok items ∧
      Description.ofValue v = .ok d ∧ d.mode = .ok mode ∧ rulesFrom 0 d.pattern = .ok rules ∧
      rules.map (fun rule => rule.fields.keys) = items.map fieldNames ∧ input = .text text ∧
      AreTraced mode rules ((Entries.field? "severity" entries).getD .null)
        (Text.lines text.toList) records := by
  obtain ⟨d, mode, text, hbuild, hmode, rfl, hrecords⟩ := exists_job_of_sift h
  obtain ⟨entries, rfl, hd⟩ := Description.ofValue_eq_ok_iff.1 hbuild
  obtain ⟨given, items, hgiven, hitems, hpattern⟩ := hd.pattern
  have hregex : ∀ s ∈ d.pattern, ∃ regex, Regex.ofText s.regexp = .ok regex := by
    intro s hs
    obtain ⟨item, -, part, -, hs⟩ :=
      exists_left_of_forall₂ (subPatternsFrom_eq_ok_iff.1 hpattern) hs
    exact hs.regex
  obtain ⟨rules, hrules⟩ := exists_rules_of_regex hregex 0
  refine ⟨entries, given, items, d, mode, rules, text, rfl, hgiven, hitems, hbuild, hmode, hrules,
    keys_of_rules hpattern hrules, rfl, ?_⟩
  rw [hd.severity]
  exact areTraced_of_areAllRecords (fun line hline => Text.not_mem_of_mem_splitOn hline)
    (areAllRecords_of_records hmode hrules hrecords)

/-- The matcher of reports with a severity. -/
def gradedReport : Value :=
  .map [(.text "owner", .text "report"), (.text "severity", .text "warning"),
    (.text "pattern", .list [
      .map [(.text "regexp", .text "^= (.+)"), (.text "file", .int 1)],
      .map [(.text "regexp", .text "^-(.+)"), (.text "message", .int 1),
        (.text "loop", .bool true)]])]

/-- A file and a message, both with blanks around them, and the severity, which neither line
holds. -/
theorem sift_provenance_gradedReport :
    sift (.value gradedReport) (.text "= a.c \n-  x ") =
      .ok [[(.text "file", .text "a.c"), (.text "severity", .text "warning"),
        (.text "message", .text "x")]] ∧
    ∃ rules, rules.map (fun rule => rule.fields.keys) = [[.text "file"], [.text "message"]] ∧
      AreTraced .loop rules (.text "warning") (Text.lines "= a.c \n-  x ".toList)
        [[(.text "file", .text "a.c"), (.text "severity", .text "warning"),
          (.text "message", .text "x")]] := by
  have hsift : sift (.value gradedReport) (.text "= a.c \n-  x ") =
      .ok [[(.text "file", .text "a.c"), (.text "severity", .text "warning"),
        (.text "message", .text "x")]] := by decide +kernel
  refine ⟨hsift, ?_⟩
  obtain ⟨entries, given, items, d, mode, rules, text, hentries, hgiven, hitems, hd, hmode, -,
    hkeys, htext, htraced⟩ := sift_provenance hsift
  cases hentries
  cases htext
  cases (show some _ = some given from hgiven)
  cases (show Except.ok _ = Except.ok items from hitems)
  have hbuild : Description.ofValue gradedReport = .ok ⟨.text "report",
      [⟨"^= (.+)", [(.text "file", .int 1)], false⟩,
        ⟨"^-(.+)", [(.text "message", .int 1)], true⟩], .text "warning"⟩ := by decide +kernel
  cases hbuild.symm.trans hd
  cases (show Except.ok Mode.loop = Except.ok mode from hmode)
  exact ⟨rules, hkeys.trans (by decide), htraced⟩

end LogSift.Matcher
