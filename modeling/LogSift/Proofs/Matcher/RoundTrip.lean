import LogSift.Proofs.Matcher.Build

/-!
# Descriptions in writing

A description is written as a value (`Description.toValue`) and built from one
(`Description.ofValue`). Building settles what a value leaves open: digits become numbers, a loop
mark becomes true or false, and entries that mean nothing go away. What is built is normal
(`SubPattern.IsNormal`), and normal descriptions are built again from what is written.

* `isNormal_of_isGivenBy`, `ofValue_toValue`: what is built is normal, and what is normal is the
  same after it has been written and built.
* `alike_toValue`: a value in canonical form is written as it is given, apart from the order of its
  entries (`Value.Alike`).
* `round_trip`: both for the values of JSON documents.
-/

namespace LogSift

/-- Whether two values are the same apart from the order of the entries in their maps. -/
inductive Value.Alike : Value → Value → Prop
  | refl (v : Value) : Alike v v
  | list {xs ys : List Value} : List.Forall₂ Alike xs ys → Alike (.list xs) (.list ys)
  | map {m n : Entries Value} :
    (∀ key, Option.Rel Alike (Entries.get? key m) (Entries.get? key n)) → Alike (.map m) (.map n)

namespace Matcher

/-! ## Fields -/

/-- A group that has been read stays as it is. -/
theorem groupOf_eq_self {v group : Value} (h : groupOf v = .ok group) :
    groupOf group = .ok group := by
  rcases groupOf_cases h with rfl | ⟨s, n, -, rfl⟩
  · exact h
  · rfl

theorem isDocument_of_groupOf {v group : Value} (hv : v.IsDocument) (h : groupOf v = .ok group) :
    group.IsDocument := by
  rcases groupOf_cases h with rfl | ⟨s, n, hread, rfl⟩
  · exact hv
  · refine ⟨?_, rfl⟩
    rw [Value.isJson, Scalar.isJson]
    exact Number.isShowable_of_readInteger hread

/-! ## Sub-patterns -/

/-- A sub-pattern as it is built from the value of a document: its expression is well-formed, and
the groups of its fields have been read. -/
structure SubPattern.IsNormal (s : SubPattern) : Prop where
  regex : ∃ regex, Regex.ofText s.regexp = .ok regex
  document : (Value.map s.fields).IsDocument
  fields : ∀ field ∈ s.fields, isReserved field.1 = false ∧ groupOf field.2 = .ok field.2

theorem isNormal_of_isGivenBy {s : SubPattern} {entries : Entries Value}
    (hentries : (Value.map entries).IsDocument) (h : s.IsGivenBy entries) : s.IsNormal := by
  obtain ⟨hdistinct, hvalues⟩ := Value.isDocument_map_iff.1 hentries
  refine ⟨h.regex, Value.isDocument_map_iff.2
    ⟨isDistinct_of_fieldsOf hdistinct h.fields, fun field hfield => ?_⟩, fun field hfield => ?_⟩
  · obtain ⟨-, v, hv, hgroup⟩ := exists_entry_of_fieldsOf h.fields hfield
    obtain ⟨hname, hv⟩ := hvalues _ hv
    exact ⟨hname, isDocument_of_groupOf hv hgroup⟩
  · obtain ⟨hkey, v, -, hgroup⟩ := exists_entry_of_fieldsOf h.fields hfield
    exact ⟨hkey, groupOf_eq_self hgroup⟩

/-- The entries of a sub-pattern in writing. -/
def SubPattern.entries (s : SubPattern) : Entries Value :=
  (.text "regexp", .text s.regexp) ::
    (s.fields ++ if s.loop then [(.text "loop", .bool true)] else [])

namespace SubPattern.IsNormal

variable {s : SubPattern}

theorem get?_of_isReserved (h : s.IsNormal) {key : Scalar} (hkey : isReserved key = true) :
    Entries.get? key s.fields = none := by
  rw [Entries.get?_eq_none_iff]
  intro k hk hsame
  obtain ⟨field, hfield, rfl⟩ := List.mem_map.1 hk
  have hfree := (h.fields field hfield).1
  rw [Scalar.sameKey_comm] at hsame
  rcases isReserved_iff.1 hkey with rfl | rfl
  · simp [Scalar.sameKey_text_iff.1 hsame, isReserved_iff.2] at hfree
  · simp [Scalar.sameKey_text_iff.1 hsame, isReserved_iff.2] at hfree

theorem isDistinct_front (h : s.IsNormal) :
    Entries.IsDistinct ((.text "regexp", .text s.regexp) :: s.fields) := by
  have hregexp := h.get?_of_isReserved (isReserved_iff.2 (.inl rfl))
  refine Entries.isDistinct_cons.2 ⟨?_, (Value.isDocument_map_iff.1 h.document).1⟩
  rw [Entries.has, hregexp]
  rfl

theorem has_loop_front (h : s.IsNormal) :
    Entries.has (.text "loop") ((.text "regexp", .text s.regexp) :: s.fields) = false := by
  have hloop := h.get?_of_isReserved (isReserved_iff.2 (.inr rfl))
  rw [Entries.has_cons, Entries.has, hloop, Scalar.sameKey_text]
  rfl

theorem isDistinct_entries (h : s.IsNormal) : s.entries.IsDistinct := by
  unfold SubPattern.entries
  rw [← List.cons_append]
  refine Entries.isDistinct_append.2 ⟨h.isDistinct_front, ?_, fun key hkey => ?_⟩
  · split <;> simp [Entries.isDistinct_cons, Entries.has]
  · split at hkey
    · cases List.mem_singleton.1 hkey
      exact h.has_loop_front
    · cases hkey

theorem toValue_eq (h : s.IsNormal) : s.toValue = .map s.entries := by
  have hmerge : Entries.merge [(.text "regexp", .text s.regexp)] s.fields =
      (.text "regexp", .text s.regexp) :: s.fields := Entries.merge_eq_append h.isDistinct_front
  unfold SubPattern.toValue SubPattern.entries
  simp only [hmerge]
  split
  · rw [Entries.set_eq_append h.has_loop_front, List.cons_append]
  · rw [List.append_nil]

/-- The value at each key of a sub-pattern in writing. -/
theorem get?_entries (h : s.IsNormal) (key : Scalar) :
    Entries.get? key s.entries =
      if key = .text "regexp" then some (.text s.regexp)
      else if key = .text "loop" then if s.loop then some (.bool true) else none
      else Entries.get? key s.fields := by
  have htail : Entries.get? key
      (if s.loop then [(Scalar.text "loop", Value.bool true)] else []) =
        if key = .text "loop" then if s.loop then some (.bool true) else none else none := by
    cases s.loop <;> simp [Entries.get?, Scalar.sameKey_text_iff]
  rw [SubPattern.entries, Entries.get?, Entries.get?_append, htail]
  simp only [Scalar.sameKey_text_iff]
  by_cases hloop : key = .text "loop"
  · simp [hloop, h.get?_of_isReserved (isReserved_iff.2 (.inr rfl))]
  · simp [hloop]

/-- What is written of a sub-pattern gives it again. -/
theorem isGivenBy_entries (h : s.IsNormal) : s.IsGivenBy s.entries where
  regexp := by simp [Entries.field?, h.get?_entries]
  regex := h.regex
  fields := by
    have hfree : (s.entries.filter fun e => !isReserved e.1) = s.fields := by
      unfold SubPattern.entries
      have hkept : (s.fields.filter fun e => !isReserved e.1) = s.fields :=
        List.filter_eq_self.2 fun field hfield => by simp [(h.fields field hfield).1]
      rw [List.filter_cons_of_neg (by simp [isReserved_iff.2]), List.filter_append, hkept]
      split
      · rw [List.filter_cons_of_neg (by simp [isReserved_iff.2]), List.filter_nil, List.append_nil]
      · rw [List.filter_nil, List.append_nil]
    rw [fieldsOf_eq_ok_iff, hfree]
    exact List.forall₂_same.2 fun field hfield => ⟨rfl, (h.fields field hfield).2⟩
  loop := by
    simp only [Entries.field?, h.get?_entries, Scalar.text.injEq, String.reduceEq, if_false,
      if_true]
    cases s.loop <;> rfl

theorem isDocument_toValue (h : s.IsNormal) : s.toValue.IsDocument := by
  rw [h.toValue_eq, Value.isDocument_map_iff]
  refine ⟨h.isDistinct_entries, List.forall_mem_cons.2 ⟨⟨⟨_, rfl⟩, rfl, rfl⟩, ?_⟩⟩
  refine List.forall_mem_append.2 ⟨(Value.isDocument_map_iff.1 h.document).2, fun e he => ?_⟩
  split at he
  · cases List.mem_singleton.1 he
    exact ⟨⟨_, rfl⟩, rfl, rfl⟩
  · cases he

end SubPattern.IsNormal

/-! ## Descriptions -/

/-- The value, unless it is null. -/
def present? : Value → Option Value
  | .null => none
  | v => some v

theorem present?_eq_some {v : Value} (h : v ≠ .null) : present? v = some v := by
  unfold present?
  split
  · exact absurd rfl h
  · rfl

theorem present?_getD (v : Value) : (present? v).getD .null = v := by
  unfold present?
  split <;> rfl

/-- The entries of a description in writing. -/
def Description.entries (d : Description) : Entries Value :=
  (.text "owner", d.owner) ::
    (((present? d.severity).map fun v => (.text "severity", v)).toList ++
      [(.text "pattern", .list (d.pattern.map SubPattern.toValue))])

theorem Description.toValue_eq (d : Description) : d.toValue = .map d.entries := by
  unfold Description.toValue Description.entries
  split
  · next hnull =>
    rw [hnull]
    rfl
  · next hnull =>
    rw [present?_eq_some hnull]
    rfl

/-- The value at each key of a description in writing. -/
theorem Description.get?_entries (d : Description) (key : Scalar) :
    Entries.get? key d.entries =
      if key = .text "owner" then some d.owner
      else if key = .text "severity" then present? d.severity
      else if key = .text "pattern" then some (.list (d.pattern.map SubPattern.toValue))
      else none := by
  have hseverity : Entries.get? key
      ((present? d.severity).map fun v => (Scalar.text "severity", v)).toList =
        if key = .text "severity" then present? d.severity else none := by
    cases present? d.severity <;> simp [Entries.get?, Scalar.sameKey_text_iff]
  rw [Description.entries, Entries.get?, Entries.get?_append, hseverity]
  simp only [Scalar.sameKey_text_iff, Entries.get?]
  by_cases hkey : key = .text "severity"
  · simp [hkey]
  · simp [hkey]

/-- What is normal is the same after it has been written and built. -/
theorem ofValue_toValue {d : Description} (h : ∀ s ∈ d.pattern, s.IsNormal) :
    Description.ofValue d.toValue = .ok d := by
  refine Description.ofValue_eq_ok_iff.2 ⟨d.entries, d.toValue_eq, ?_, ?_, ?_⟩
  · simp [Entries.field?, d.get?_entries]
  · refine ⟨.list (d.pattern.map SubPattern.toValue), d.pattern.map SubPattern.toValue,
      by simp [Entries.field?, d.get?_entries], rfl, ?_⟩
    rw [subPatternsFrom_eq_ok_iff, List.forall₂_map_left_iff, List.forall₂_same]
    exact fun s hs => ⟨s.entries, (h s hs).toValue_eq, (h s hs).isGivenBy_entries⟩
  · simp [Entries.field?, d.get?_entries, present?_getD]

theorem isDocument_toValue {d : Description} (howner : d.owner.IsDocument)
    (hseverity : d.severity.IsDocument) (h : ∀ s ∈ d.pattern, s.IsNormal) :
    d.toValue.IsDocument := by
  rw [d.toValue_eq, Value.isDocument_map_iff, Description.entries]
  refine ⟨?_, List.forall_mem_cons.2 ⟨⟨⟨_, rfl⟩, howner⟩, List.forall_mem_append.2 ⟨?_, ?_⟩⟩⟩
  · cases present? d.severity <;> simp [Entries.isDistinct_cons, Entries.has, Entries.get?,
      Scalar.sameKey_text]
  · intro e he
    obtain ⟨v, hv, rfl⟩ := Option.map_eq_some_iff.1 (Option.mem_toList.1 he)
    refine ⟨⟨_, rfl⟩, ?_⟩
    have := present?_getD d.severity
    rw [hv, Option.getD_some] at this
    exact this ▸ hseverity
  · refine List.forall_mem_singleton.2 ⟨⟨_, rfl⟩, Value.isDocument_list_iff.2 ?_⟩
    exact List.forall_mem_map.2 fun s hs => (h s hs).isDocument_toValue

theorem validate_toValue {d : Description} (howner : d.owner.isTrue = true)
    (hpattern : d.pattern ≠ []) : (Source.value d.toValue).validate = .ok () := by
  obtain ⟨n, hn⟩ := Nat.exists_eq_succ_of_ne_zero (mt List.length_eq_zero_iff.1 hpattern)
  rw [d.toValue_eq]
  refine Source.validate_eq_ok_iff.2 ⟨?_, n, ?_⟩
  · simpa [Source.owner, Entries.field?, d.get?_entries] using howner
  · simp [Source.patternCount?, Entries.field?, d.get?_entries, hn]

/-- What is built from a document that passes the checks: normal sub-patterns, one for each item of
a list. -/
theorem isNormal_of_ofValue {v : Value} {d : Description} (hv : v.IsDocument)
    (hvalid : (Source.value v).validate = .ok ()) (h : Description.ofValue v = .ok d) :
    ∃ entries items, v = .map entries ∧ d.IsGivenBy entries ∧
      Entries.field? "pattern" entries = some (.list items) ∧ d.pattern ≠ [] ∧
      ∀ s ∈ d.pattern, s.IsNormal := by
  obtain ⟨entries, items, rfl, hitems, hne⟩ := exists_items_of_validate hv.json hvalid
  obtain ⟨entries, hentries, hd⟩ := Description.ofValue_eq_ok_iff.1 h
  cases hentries
  obtain ⟨given, items, hgiven, hof, hpattern⟩ := hd.pattern
  cases hitems.symm.trans hgiven
  cases hof
  have hparts := subPatternsFrom_eq_ok_iff.1 hpattern
  refine ⟨entries, items, rfl, hd, hitems, fun hnil => hne ?_, fun s hs => ?_⟩
  · rw [hnil] at hparts
    exact List.forall₂_nil_right_iff.1 hparts
  · obtain ⟨item, hmem, part, rfl, hs⟩ := exists_left_of_forall₂ hparts hs
    have hitem := Value.isDocument_list_iff.1 (Entries.isDocument_of_get? hv hgiven) _ hmem
    exact isNormal_of_isGivenBy hitem hs

/-! ## Canonical form -/

/-- Whether the entries of a sub-pattern are in the form in which it is written: a loop mark is
true, and no group is given by digits. -/
structure IsCanonicalPart (entries : Entries Value) : Prop where
  loop : ∀ v, Entries.field? "loop" entries = some v → v = .bool true
  groups : ∀ e ∈ entries, isReserved e.1 = false → ∀ s, e.2 = .text s → isDigits s = false

/-- Whether the entries of a matcher are in the form in which it is written: there are no others
than a description has, the severity is not null, and the sub-patterns are canonical. -/
structure IsCanonical (entries : Entries Value) : Prop where
  keys : ∀ key ∈ entries.keys,
    key = .text "owner" ∨ key = .text "severity" ∨ key = .text "pattern"
  severity : Entries.field? "severity" entries ≠ some .null
  parts : ∀ items, Entries.field? "pattern" entries = some (.list items) →
    ∀ part, .map part ∈ items → IsCanonicalPart part

theorem rel_refl (v : Option Value) : Option.Rel Value.Alike v v := by
  cases v with
  | none => exact .none
  | some v => exact .some (.refl v)

/-- Groups that are not given by digits stay as they are. -/
theorem fields_eq_of_isCanonicalPart {entries fields : Entries Value}
    (h : IsCanonicalPart entries) (hfields : fieldsOf entries = .ok fields) :
    fields = entries.filter fun e => !isReserved e.1 := by
  have hgroup : ∀ e ∈ entries.filter fun e => !isReserved e.1, groupOf e.2 = .ok e.2 := by
    intro e he
    obtain ⟨hmem, hkey⟩ := List.mem_filter.1 he
    have hdigits := h.groups e hmem (by simpa using hkey)
    unfold groupOf
    split
    · next s hs => rw [if_neg (by simp [hdigits s hs]), hs]
    · rfl
  have hboth := (List.forall₂_and_left _ _).2 ⟨hgroup, fieldsOf_eq_ok_iff.1 hfields⟩
  rw [← List.forall₂_eq_eq_eq]
  refine List.Forall₂.flip (hboth.imp fun e field he => ?_)
  obtain ⟨hself, hname, hread⟩ := he
  exact Prod.ext hname.symm (Except.ok.inj (hread.symm.trans hself))

theorem alike_toValue_part {s : SubPattern} {entries : Entries Value} (hs : s.IsNormal)
    (hgiven : s.IsGivenBy entries) (h : IsCanonicalPart entries) :
    s.toValue.Alike (.map entries) := by
  rw [hs.toValue_eq]
  refine .map fun key => ?_
  rw [hs.get?_entries]
  by_cases hregexp : key = .text "regexp"
  · subst hregexp
    rw [if_pos rfl, ← hgiven.regexp]
    exact rel_refl _
  by_cases hloop : key = .text "loop"
  · subst hloop
    rw [if_neg hregexp, if_pos rfl, ← hgiven.loop, Entries.field?]
    cases hmark : Entries.get? (.text "loop") entries with
    | none => exact .none
    | some v =>
      cases h.loop v hmark
      exact rel_refl _
  · have hfree : ∀ k : Scalar, k.sameKey key = true → (!isReserved k) = true := by
      intro k hk
      rw [Bool.not_eq_true', ← Bool.not_eq_true, isReserved_iff]
      rintro (rfl | rfl)
      · exact hregexp (Scalar.sameKey_text_iff.1 hk)
      · exact hloop (Scalar.sameKey_text_iff.1 hk)
    rw [if_neg hregexp, if_neg hloop, fields_eq_of_isCanonicalPart h hgiven.fields,
      Entries.get?_filter hfree]
    exact rel_refl _

/-- A canonical value is written as it is given. -/
theorem alike_toValue {d : Description} {entries : Entries Value} {items : List Value}
    (hd : d.IsGivenBy entries) (hnormal : ∀ s ∈ d.pattern, s.IsNormal)
    (hitems : Entries.field? "pattern" entries = some (.list items)) (h : IsCanonical entries) :
    d.toValue.Alike (.map entries) := by
  have hparts : List.Forall₂ Value.Alike (d.pattern.map SubPattern.toValue) items := by
    obtain ⟨given, items', hgiven, hof, hpattern⟩ := hd.pattern
    cases hitems.symm.trans hgiven
    cases hof
    have hpart : ∀ item ∈ items, ∀ part, item = .map part → IsCanonicalPart part := by
      rintro item hitem part rfl
      exact h.parts items hitems part hitem
    have hcanonical := (List.forall₂_and_left _ _).2
      ⟨hpart, subPatternsFrom_eq_ok_iff.1 hpattern⟩
    have hboth := (List.forall₂_and_left _ _).2 ⟨hnormal, hcanonical.flip⟩
    refine List.forall₂_map_left_iff.2 (hboth.imp fun s item hs => ?_)
    obtain ⟨hs, hpart, part, rfl, hgiven⟩ := hs
    exact alike_toValue_part hs hgiven (hpart part rfl)
  rw [d.toValue_eq]
  refine .map fun key => ?_
  rw [d.get?_entries]
  by_cases howner : key = .text "owner"
  · subst howner
    rw [if_pos rfl, ← hd.owner]
    exact rel_refl _
  by_cases hseverity : key = .text "severity"
  · subst hseverity
    rw [if_neg howner, if_pos rfl, ← hd.severity, Entries.field?]
    cases hgiven : Entries.get? (.text "severity") entries with
    | none => exact .none
    | some v =>
      rw [Option.getD_some, present?_eq_some fun hnull => h.severity (hnull ▸ hgiven)]
      exact rel_refl _
  by_cases hpattern : key = .text "pattern"
  · subst hpattern
    rw [if_neg howner, if_neg hseverity, if_pos rfl, show Entries.get? _ entries = _ from hitems]
    exact .some (.list hparts)
  · rw [if_neg howner, if_neg hseverity, if_neg hpattern]
    rw [Entries.get?_eq_none_iff.2]
    · exact .none
    · intro k hk hsame
      rcases h.keys k hk with rfl | rfl | rfl
      · exact howner (Scalar.sameKey_text_iff.1 hsame)
      · exact hseverity (Scalar.sameKey_text_iff.1 hsame)
      · exact hpattern (Scalar.sameKey_text_iff.1 hsame)

/-! ## Documents -/

/-- **Descriptions go round.** A description that is built from a document that passes the checks is
written as such a document again, from which the same description is built; so writing what is built
changes nothing more the second time. A canonical document is written as it is given. -/
theorem round_trip {v : Value} {d : Description} (hv : v.IsDocument)
    (hvalid : (Source.value v).validate = .ok ()) (h : Description.ofValue v = .ok d) :
    d.toValue.IsDocument ∧ (Source.value d.toValue).validate = .ok () ∧
      Description.ofValue d.toValue = .ok d ∧
      Description.toValue <$> Description.ofValue d.toValue = .ok d.toValue ∧
      ∀ entries, v = .map entries → IsCanonical entries → d.toValue.Alike v := by
  obtain ⟨entries, items, rfl, hd, hitems, hne, hnormal⟩ := isNormal_of_ofValue hv hvalid h
  have howner : d.owner.IsDocument := Entries.isDocument_of_get? hv hd.owner
  have hseverity : d.severity.IsDocument := by
    rw [← hd.severity]
    cases hgiven : Entries.field? "severity" entries with
    | none => exact ⟨rfl, rfl⟩
    | some v => exact Entries.isDocument_of_get? hv hgiven
  have hbuild := ofValue_toValue hnormal
  refine ⟨isDocument_toValue howner hseverity hnormal,
    validate_toValue (isTrue_owner_of_ofValue hvalid h) hne, hbuild, by rw [hbuild]; rfl, ?_⟩
  intro other hother hcanonical
  cases hother
  exact alike_toValue hd hnormal hitems hcanonical

/-- The matcher of reports in canonical form, with its entries in another order. -/
def reportCanonical : Value :=
  .map [(.text "pattern", .list [
      .map [(.text "file", .int 1), (.text "regexp", .text "^= (.+)")],
      .map [(.text "loop", .bool true), (.text "message", .int 1),
        (.text "regexp", .text "^- (.+)")]]),
    (.text "owner", .text "report")]

/-- The matcher of reports is written in another order than it is given, and built again. -/
theorem round_trip_report :
    report.toValue.IsDocument ∧ (Source.value report.toValue).validate = .ok () ∧
      Description.ofValue report.toValue = .ok report ∧ report.toValue.Alike reportCanonical := by
  have hv : reportCanonical.IsDocument := ⟨by decide +kernel, by decide +kernel⟩
  have hbuild : Description.ofValue reportCanonical = .ok report := by decide +kernel
  obtain ⟨hdocument, hvalid, hagain, -, halike⟩ := round_trip hv (by rfl) hbuild
  refine ⟨hdocument, hvalid, hagain, halike _ rfl ⟨?_, ?_, ?_⟩⟩
  · simp
  · simp [Entries.field?, Entries.get?, Scalar.sameKey_text]
  · intro items hitems part hpart
    cases (show some _ = some _ from hitems)
    simp only [List.mem_cons, List.not_mem_nil, Value.map.injEq, or_false] at hpart
    rcases hpart with rfl | rfl
    · exact ⟨by simp [Entries.field?, Entries.get?, Scalar.sameKey_text],
        by simp [isReserved, Scalar.sameKey_text]⟩
    · exact ⟨by simp [Entries.field?, Entries.get?, Scalar.sameKey_text],
        by simp [isReserved, Scalar.sameKey_text]⟩

end Matcher

end LogSift
