import LogSift.Proofs.Matcher.Provenance

/-!
# Keys of records

No record of a matcher has a key twice if the value from which the matcher is built has no map that
does.

* `isDistinct_fields_of_ofValue`: no sub-pattern has a field twice.
* `isDistinct_of_areAllRecords`: nor has a record of rules that have no field twice.
* `isDistinct_of_sift`: both for a matcher.
-/

namespace LogSift.Matcher

/-! ## Fields -/

theorem hasDistinctKeys_of_itemsOf {v : Value} {items : List Value}
    (hv : v.hasDistinctKeys = true) (h : itemsOf v = .ok items) :
    ∀ item ∈ items, item.hasDistinctKeys = true := by
  unfold itemsOf at h
  split at h
  · cases h
    exact Value.itemsDistinct_iff.1 hv
  · cases h
    obtain ⟨ha, hb⟩ := Bool.and_eq_true_iff.1 hv
    simp [ha, hb]
  -- The other values have scalars for their items.
  · cases h
    exact List.forall_mem_map.2 fun _ _ => rfl
  · cases h
    exact List.forall_mem_map.2 fun _ _ => rfl
  · cases h
    exact List.forall_mem_map.2 fun _ _ => rfl
  · cases h
    exact List.forall_mem_map.2 fun _ _ => rfl
  · cases h

theorem isDistinct_fields_of_ofValue {v : Value} {d : Description}
    (hv : v.hasDistinctKeys = true) (h : Description.ofValue v = .ok d) :
    ∀ s ∈ d.pattern, s.fields.IsDistinct := by
  intro s hs
  obtain ⟨entries, rfl, hd⟩ := Description.ofValue_eq_ok_iff.1 h
  obtain ⟨given, items, hgiven, hitems, hpattern⟩ := hd.pattern
  obtain ⟨item, hitem, part, rfl, hs⟩ :=
    exists_left_of_forall₂ (subPatternsFrom_eq_ok_iff.1 hpattern) hs
  have hpart := hasDistinctKeys_of_itemsOf (Entries.hasDistinctKeys_of_get? hv hgiven) hitems _
    hitem
  exact isDistinct_of_fieldsOf (Value.hasDistinctKeys_map_iff.1 hpart).1 hs.fields

/-! ## Records -/

/-- The severity comes behind the fields if it is not one of them. -/
theorem isDistinct_of_extract {rule : Rule} {severity : Value} {line : List Char} {record : Record}
    (hfields : rule.fields.IsDistinct) (h : rule.extract severity line = .ok (some record)) :
    record.IsDistinct := by
  obtain ⟨m, own, -, -, hown, rfl⟩ := Rule.extract_eq_some_iff.1 h
  have hkeys : own.keys = rule.fields.keys :=
    (map_eq_map_of_forall₂ ((forall₂_of_fieldValues hown).imp fun field e he => he.1.symm)).symm
  have hdistinct : own.IsDistinct := by rwa [Entries.IsDistinct, hkeys]
  rcases withSeverity_cases severity own with ⟨hsame, -⟩ | ⟨hset, -⟩
  · rwa [hsame]
  · rw [hset]
    exact hdistinct.set _ _

theorem isDistinct_of_areAllRecords {mode : Mode} {rules : List Rule} {severity : Value}
    {lines : List (List Char)} {records : List Record}
    (hrules : ∀ rule ∈ rules, rule.fields.IsDistinct)
    (h : AreAllRecords mode rules severity lines records) : ∀ r ∈ records, r.IsDistinct := by
  intro r hr
  cases mode with
  | single =>
    obtain ⟨rule, rfl, hall⟩ := h
    obtain ⟨line, -, hread⟩ := exists_left_of_forall₂ hall hr
    exact isDistinct_of_extract (hrules rule (List.mem_singleton_self _)) hread
  | loop =>
    obtain ⟨headers, loop, -, hall⟩ := h
    obtain ⟨i, -, hrecord⟩ := exists_left_of_forall₂ hall hr
    exact hrecord.isDistinct

theorem isDistinct_fields_of_rulesFrom {pattern : List SubPattern} {rules : List Rule}
    (hpattern : ∀ s ∈ pattern, s.fields.IsDistinct) (h : rulesFrom 0 pattern = .ok rules) :
    ∀ rule ∈ rules, rule.fields.IsDistinct := by
  intro rule hrule
  obtain ⟨s, hs, hready⟩ := exists_left_of_forall₂ (rulesFrom_eq_ok.1 h) hrule
  rw [hready.2]
  exact hpattern s hs

/-- No record has a key twice if the value from which the matcher is built has no map that does. -/
theorem isDistinct_of_sift {v input : Value} {d : Description} {records : List Record}
    (hv : v.hasDistinctKeys = true) (hbuild : Description.ofValue v = .ok d)
    (h : sift (.description d) input = .ok records) : ∀ r ∈ records, r.IsDistinct := by
  obtain ⟨d', mode, text, hd, hmode, -, hrecords⟩ := exists_job_of_sift h
  cases hd
  obtain ⟨rules, hrules⟩ := exists_rules_of_ofValue hbuild
  exact isDistinct_of_areAllRecords
    (isDistinct_fields_of_rulesFrom (isDistinct_fields_of_ofValue hv hbuild) hrules)
    (areAllRecords_of_records hmode hrules hrecords)

end LogSift.Matcher
