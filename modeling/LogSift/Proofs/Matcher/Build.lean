import LogSift.Proofs.JsonValue
import LogSift.Proofs.Matcher.Extract
import LogSift.Proofs.Matcher.Plan

/-!
# Descriptions from JSON

* `fieldsOf_eq_ok_iff`: the fields are the entries of a map that are not reserved, in order.
* `subPatternsFrom_eq_ok_iff`, `Description.ofValue_eq_ok_iff`: what sub-patterns and descriptions
  are built from (`SubPattern.IsGivenBy`, `Description.IsGivenBy`). The number that a sub-pattern
  has in messages does not matter.
* `Source.validate_eq_ok_iff`: the checks that a matcher passes.
* `isBuilt_of_ofValue`: in a description that has been built from the value of a JSON document the
  expressions of the sub-patterns are well-formed, and messages can show all fields
  (`SubPattern.IsBuilt`). It has rules (`exists_rules_of_isBuilt`), and it passes the checks that
  the value has passed (`validate_description`).
-/

namespace LogSift.Matcher

/-- A sub-pattern as it is built: its expression is well-formed, and messages can show its
fields. -/
structure SubPattern.IsBuilt (s : SubPattern) : Prop where
  regex : ∃ regex, Regex.ofText s.regexp = .ok regex
  fields : AreShowable s.fields

/-! ## Sub-patterns -/

theorem isReserved_iff {key : Scalar} :
    isReserved key = true ↔ key = .text "regexp" ∨ key = .text "loop" := by
  simp only [isReserved, Bool.or_eq_true, Scalar.sameKey_comm key, Scalar.sameKey_text_iff]

/-- A group is taken as it is given, or it is a number that has been read from digits. -/
theorem groupOf_cases {v group : Value} (h : groupOf v = .ok group) :
    group = v ∨ ∃ s n, Number.readInteger 10 s = .ok n ∧ group = .int n := by
  unfold groupOf at h
  split at h
  · next s =>
    split at h
    · split at h
      · next n hread =>
        cases h
        exact .inr ⟨s, n, hread, rfl⟩
      · cases h
    · cases h
      exact .inl rfl
  · cases h
    exact .inl rfl

/-- A group can be shown if it is given by a value that can be shown. -/
theorem isShowable_of_groupOf {v group : Value} (hv : v.isShowable = true)
    (h : groupOf v = .ok group) : group.isShowable = true := by
  rcases groupOf_cases h with rfl | ⟨s, n, hread, rfl⟩
  · exact hv
  · rw [Value.isShowable, Scalar.isShowable]
    exact Number.isShowable_of_readInteger hread

/-- The fields are the entries that are not reserved, in order, with their groups. -/
theorem fieldsOf_eq_ok_iff {entries fields : Entries Value} :
    fieldsOf entries = .ok fields ↔
      List.Forall₂ (fun e field => e.1 = field.1 ∧ groupOf e.2 = .ok field.2)
        (entries.filter fun e => !isReserved e.1) fields := by
  induction entries generalizing fields with
  | nil => simp [fieldsOf, eq_comm]
  | cons e entries ih =>
    rw [fieldsOf]
    cases hkey : isReserved e.1 with
    | true => simp [hkey, ih]
    | false =>
      rw [if_neg (by simp), List.filter_cons_of_pos (by simp [hkey]), List.forall₂_cons_left_iff]
      constructor
      · intro h
        obtain ⟨group, hgroup, h⟩ := Outcome.bind_eq_ok.1 h
        obtain ⟨more, hmore, h⟩ := Outcome.bind_eq_ok.1 h
        cases h
        exact ⟨(e.1, group), more, ⟨rfl, hgroup⟩, ih.1 hmore, rfl⟩
      · rintro ⟨⟨name, group⟩, more, ⟨rfl, hgroup⟩, hmore, rfl⟩
        rw [hgroup, Outcome.ok_bind, ih.2 hmore]
        rfl

theorem keys_of_fieldsOf {entries fields : Entries Value} (h : fieldsOf entries = .ok fields) :
    fields.keys = entries.keys.filter fun key => !isReserved key := by
  have hkeys := map_eq_map_of_forall₂ ((fieldsOf_eq_ok_iff.1 h).imp fun e field he => he.1)
  rw [Entries.keys, Entries.keys, ← hkeys, List.filter_map]
  rfl

theorem isDistinct_of_fieldsOf {entries fields : Entries Value} (hentries : entries.IsDistinct)
    (h : fieldsOf entries = .ok fields) : fields.IsDistinct := by
  rw [Entries.IsDistinct, keys_of_fieldsOf h]
  exact hentries.filter _

/-- A field comes from an entry that is not reserved. -/
theorem exists_entry_of_fieldsOf {entries fields : Entries Value} {field : Scalar × Value}
    (h : fieldsOf entries = .ok fields) (hfield : field ∈ fields) :
    isReserved field.1 = false ∧ ∃ v, (field.1, v) ∈ entries ∧ groupOf v = .ok field.2 := by
  obtain ⟨e, he, hname, hgroup⟩ := exists_left_of_forall₂ (fieldsOf_eq_ok_iff.1 h) hfield
  obtain ⟨hmem, hkey⟩ := List.mem_filter.1 he
  rw [← hname]
  exact ⟨by simpa using hkey, e.2, hmem, hgroup⟩

theorem areShowable_of_fieldsOf {entries fields : Entries Value}
    (hentries : Value.entriesJson entries = true) (h : fieldsOf entries = .ok fields) :
    AreShowable fields := by
  intro field hfield
  obtain ⟨-, v, hv, hgroup⟩ := exists_entry_of_fieldsOf h hfield
  obtain ⟨⟨name, hname⟩, hv⟩ := Value.entriesJson_iff.1 hentries _ hv
  refine ⟨?_, isShowable_of_groupOf (Value.isShowable_of_isJson hv) hgroup⟩
  rw [hname]
  rfl

/-- A sub-pattern as the entries of a map give it. -/
structure SubPattern.IsGivenBy (s : SubPattern) (entries : Entries Value) : Prop where
  regexp : Entries.field? "regexp" entries = some (.text s.regexp)
  regex : ∃ regex, Regex.ofText s.regexp = .ok regex
  fields : fieldsOf entries = .ok s.fields
  loop : ((Entries.field? "loop" entries).map Value.isTrue).getD false = s.loop

theorem SubPattern.ofValue_eq_ok_iff {index : Nat} {v : Value} {s : SubPattern} :
    SubPattern.ofValue index v = .ok s ↔ ∃ entries, v = .map entries ∧ s.IsGivenBy entries := by
  constructor
  · intro h
    unfold SubPattern.ofValue at h
    split at h
    · next entries =>
      split at h
      · next regexp hregexp =>
        obtain ⟨regex, hregex, h⟩ := Outcome.bind_eq_ok.1 h
        obtain ⟨fields, hfields, h⟩ := Outcome.bind_eq_ok.1 h
        cases h
        exact ⟨entries, rfl, hregexp, ⟨regex, compile_eq_ok.1 hregex⟩, hfields, rfl⟩
      · cases h
    · cases h
  · rintro ⟨entries, rfl, hregexp, ⟨regex, hregex⟩, hfields, hloop⟩
    simp only [SubPattern.ofValue, hregexp, compile_eq_ok.2 hregex, hfields, hloop,
      Outcome.ok_bind]
    rfl

theorem subPatternsFrom_eq_ok_iff {index : Nat} {items : List Value}
    {pattern : List SubPattern} :
    subPatternsFrom index items = .ok pattern ↔
      List.Forall₂ (fun item s => ∃ entries, item = .map entries ∧ SubPattern.IsGivenBy s entries)
        items pattern := by
  induction items generalizing index pattern with
  | nil => simp [subPatternsFrom, eq_comm]
  | cons item items ih =>
    rw [List.forall₂_cons_left_iff]
    constructor
    · intro h
      obtain ⟨s, hs, h⟩ := Outcome.bind_eq_ok.1 h
      obtain ⟨more, hmore, h⟩ := Outcome.bind_eq_ok.1 h
      cases h
      exact ⟨s, more, SubPattern.ofValue_eq_ok_iff.1 hs, ih.1 hmore, rfl⟩
    · rintro ⟨s, more, hs, hmore, rfl⟩
      rw [subPatternsFrom, SubPattern.ofValue_eq_ok_iff.2 hs, Outcome.ok_bind, ih.2 hmore]
      rfl

theorem isBuilt_of_subPatternsFrom {index : Nat} {items : List Value} {pattern : List SubPattern}
    (hitems : ∀ v ∈ items, v.isJson = true) (h : subPatternsFrom index items = .ok pattern) :
    ∀ s ∈ pattern, s.IsBuilt := by
  intro s hs
  obtain ⟨item, hitem, entries, rfl, hs⟩ :=
    exists_left_of_forall₂ (subPatternsFrom_eq_ok_iff.1 h) hs
  exact ⟨hs.regex, areShowable_of_fieldsOf (hitems _ hitem) hs.fields⟩

/-! ## Descriptions -/

theorem isJson_of_itemsOf {v : Value} {items : List Value} (hv : v.isJson = true)
    (h : itemsOf v = .ok items) : ∀ item ∈ items, item.isJson = true := by
  unfold itemsOf at h
  split at h
  · cases h
    exact Value.itemsJson_iff.1 hv
  · cases hv
  · next entries =>
    cases h
    rw [List.forall_mem_map]
    intro e he
    obtain ⟨⟨name, hname⟩, -⟩ := Value.entriesJson_iff.1 hv e he
    rw [hname]
    rfl
  · cases hv
  · cases h
    rw [List.forall_mem_map]
    exact fun _ _ => rfl
  · cases hv
  · cases h

theorem requiredEntry_eq_ok {entries : Entries Value} {name : String} {v : Value} :
    requiredEntry entries name = .ok v ↔ Entries.field? name entries = some v := by
  unfold requiredEntry
  split
  · next h => simp [h]
  · next h => simp [h]

/-- A description as the entries of a map give it. -/
structure Description.IsGivenBy (d : Description) (entries : Entries Value) : Prop where
  owner : Entries.field? "owner" entries = some d.owner
  pattern : ∃ given items, Entries.field? "pattern" entries = some given ∧
    itemsOf given = .ok items ∧ subPatternsFrom 0 items = .ok d.pattern
  severity : (Entries.field? "severity" entries).getD .null = d.severity

theorem Description.ofValue_eq_ok_iff {v : Value} {d : Description} :
    Description.ofValue v = .ok d ↔ ∃ entries, v = .map entries ∧ d.IsGivenBy entries := by
  constructor
  · intro h
    obtain ⟨entries, hentries, h⟩ := Outcome.bind_eq_ok.1 h
    obtain ⟨owner, howner, h⟩ := Outcome.bind_eq_ok.1 h
    obtain ⟨given, hgiven, h⟩ := Outcome.bind_eq_ok.1 h
    obtain ⟨items, hitems, h⟩ := Outcome.bind_eq_ok.1 h
    obtain ⟨pattern, hpattern, h⟩ := Outcome.bind_eq_ok.1 h
    cases h
    have hv : v = .map entries := by
      unfold entriesOf at hentries
      split at hentries
      · cases hentries
        rfl
      · cases hentries
    exact ⟨entries, hv, requiredEntry_eq_ok.1 howner,
      ⟨given, items, requiredEntry_eq_ok.1 hgiven, hitems, hpattern⟩, rfl⟩
  · rintro ⟨entries, rfl, howner, ⟨given, items, hgiven, hitems, hpattern⟩, hseverity⟩
    simp only [Description.ofValue, entriesOf, requiredEntry_eq_ok.2 howner,
      requiredEntry_eq_ok.2 hgiven, hitems, hpattern, hseverity, Outcome.ok_bind]
    rfl

theorem isBuilt_of_ofValue {v : Value} {d : Description} (hv : v.isJson = true)
    (h : Description.ofValue v = .ok d) : ∀ s ∈ d.pattern, s.IsBuilt := by
  obtain ⟨entries, rfl, hd⟩ := Description.ofValue_eq_ok_iff.1 h
  obtain ⟨given, items, hgiven, hitems, hpattern⟩ := hd.pattern
  have hjson : given.isJson = true := Entries.isJson_of_get? hv hgiven
  exact isBuilt_of_subPatternsFrom (isJson_of_itemsOf hjson hitems) hpattern

/-- The rules of sub-patterns that have been built. -/
theorem exists_rules_of_isBuilt {pattern : List SubPattern} (h : ∀ s ∈ pattern, s.IsBuilt)
    (index : Nat) : ∃ rules, rulesFrom index pattern = .ok rules ∧
      ∀ rule ∈ rules, AreShowable rule.fields := by
  obtain ⟨rules, hrules⟩ := exists_rules_of_regex (fun s hs => (h s hs).regex) index
  refine ⟨rules, hrules, fun rule hrule => ?_⟩
  obtain ⟨s, hs, -, hfields⟩ := exists_left_of_forall₂ (rulesFrom_eq_ok.1 hrules) hrule
  rw [hfields]
  exact (h s hs).fields

/-- What has been built has rules. -/
theorem exists_rules_of_ofValue {v : Value} {d : Description} (h : Description.ofValue v = .ok d) :
    ∃ rules, rulesFrom 0 d.pattern = .ok rules := by
  obtain ⟨entries, -, hd⟩ := Description.ofValue_eq_ok_iff.1 h
  obtain ⟨given, items, -, -, hpattern⟩ := hd.pattern
  refine exists_rules_of_regex (fun s hs => ?_) 0
  obtain ⟨item, -, part, -, hs⟩ :=
    exists_left_of_forall₂ (subPatternsFrom_eq_ok_iff.1 hpattern) hs
  exact hs.regex

theorem pattern_ne_nil_of_mode {d : Description} {mode : Mode} (h : d.mode = .ok mode) :
    d.pattern ≠ [] := by
  intro hnil
  simp [Description.mode, Description.loopIndex?, hnil] at h

/-! ## Checks -/

/-- A matcher passes the checks if its owner counts as true and it has a sub-pattern. -/
theorem Source.validate_eq_ok_iff {source : Source} :
    source.validate = .ok () ↔
      source.owner.isTrue = true ∧ ∃ n, source.patternCount? = some (some (n + 1)) := by
  unfold Source.validate
  split
  · simp [Source.owner, Value.isTrue, Value.scalarTruth]
  · cases howner : source.owner.isTrue with
    | false => simp
    | true => rcases hcount : source.patternCount? with _ | _ | _ | n <;> simp

/-- The sub-patterns of a JSON value that passes the checks are given by a list. -/
theorem exists_items_of_validate {v : Value} (hjson : v.isJson = true)
    (hvalid : (Source.value v).validate = .ok ()) :
    ∃ entries items, v = .map entries ∧
      Entries.field? "pattern" entries = some (.list items) ∧ items ≠ [] := by
  obtain ⟨-, n, hn⟩ := Source.validate_eq_ok_iff.1 hvalid
  cases v with
  | map entries =>
    simp only [Source.patternCount?] at hn
    split at hn
    · cases hn
    · cases hn
    · next items hitems =>
      refine ⟨entries, items, rfl, hitems, ?_⟩
      rintro rfl
      cases hn
    · next a b hpair => cases Entries.isJson_of_get? hjson hpair
    · cases hn
  | _ => cases hn

theorem isTrue_owner_of_ofValue {v : Value} {d : Description}
    (hvalid : (Source.value v).validate = .ok ()) (h : Description.ofValue v = .ok d) :
    d.owner.isTrue = true := by
  obtain ⟨entries, rfl, hd⟩ := Description.ofValue_eq_ok_iff.1 h
  have htrue := (Source.validate_eq_ok_iff.1 hvalid).1
  simpa only [Source.owner, hd.owner, Option.getD_some] using htrue

theorem validate_of_pattern_ne_nil {v : Value} {d : Description}
    (hvalid : (Source.value v).validate = .ok ()) (h : Description.ofValue v = .ok d)
    (hne : d.pattern ≠ []) : (Source.description d).validate = .ok () := by
  have hlen : d.pattern.length ≠ 0 := by simpa using hne
  obtain ⟨n, hn⟩ := Nat.exists_eq_succ_of_ne_zero hlen
  exact Source.validate_eq_ok_iff.2
    ⟨isTrue_owner_of_ofValue hvalid h, n, by simp [Source.patternCount?, hn]⟩

/-- A description with a mode passes the checks that the value it is built from has passed. -/
theorem validate_description {v : Value} {d : Description} {mode : Mode}
    (hvalid : (Source.value v).validate = .ok ()) (h : Description.ofValue v = .ok d)
    (hmode : d.mode = .ok mode) : (Source.description d).validate = .ok () :=
  validate_of_pattern_ne_nil hvalid h (pattern_ne_nil_of_mode hmode)

/-- A value that passes the checks has sub-patterns, and building it is building these. -/
theorem exists_items_of_valid {v : Value} (hvalid : (Source.value v).validate = .ok ()) :
    ∃ entries given items owner, v = .map entries ∧
      Entries.field? "pattern" entries = some given ∧ itemsOf given = .ok items ∧ items ≠ [] ∧
      Description.ofValue v =
        (⟨owner, ·, (Entries.field? "severity" entries).getD .null⟩) <$>
          subPatternsFrom 0 items := by
  obtain ⟨htrue, n, hn⟩ := Source.validate_eq_ok_iff.1 hvalid
  cases v with
  | map entries =>
    cases howner : Entries.field? "owner" entries with
    | none => simp [Source.owner, howner, Value.isTrue, Value.scalarTruth] at htrue
    | some owner =>
      have hitems : ∃ given items, Entries.field? "pattern" entries = some given ∧
          itemsOf given = .ok items ∧ items ≠ [] := by
        simp only [Source.patternCount?] at hn
        split at hn
        · cases hn
        · cases hn
        · next items hgiven =>
          refine ⟨_, items, hgiven, rfl, ?_⟩
          rintro rfl
          cases hn
        · next a b hgiven => exact ⟨_, [a, b], hgiven, rfl, by simp⟩
        · cases hn
      obtain ⟨given, items, hgiven, hitems, hne⟩ := hitems
      refine ⟨entries, given, items, owner, rfl, hgiven, hitems, hne, ?_⟩
      simp [Description.ofValue, entriesOf, requiredEntry, howner, hgiven, hitems]
  | _ => cases hn

/-- What is built from a value that passes the checks passes them as well. -/
theorem validate_of_ofValue {v : Value} {d : Description}
    (hvalid : (Source.value v).validate = .ok ()) (h : Description.ofValue v = .ok d) :
    (Source.description d).validate = .ok () := by
  obtain ⟨entries, given, items, owner, -, -, -, hne, hbuild⟩ := exists_items_of_valid hvalid
  rw [hbuild] at h
  obtain ⟨pattern, hpattern, rfl⟩ := Outcome.map_eq_ok.1 h
  refine validate_of_pattern_ne_nil hvalid (hbuild.trans (by rw [hpattern]; rfl)) ?_
  rintro rfl
  exact hne (List.forall₂_nil_right_iff.1 (subPatternsFrom_eq_ok_iff.1 hpattern))

end LogSift.Matcher
