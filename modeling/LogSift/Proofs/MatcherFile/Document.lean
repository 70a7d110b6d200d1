import LogSift.MatcherFile.Document
import LogSift.Proofs.Matcher.Stages
import LogSift.Proofs.MatcherFile.Selection

/-!
# The matchers of a document

A document is a wrapper around matchers in writing. It changes neither what is refused nor what a
matcher finds.

* `held`: what a document holds in the place of its matchers. It gives matchers if this is a list
  (`entriesOf_eq_some_iff`).
* `describe_eq_ok_iff`, `describe_eq_error_iff`: when an entry gives a matcher, and with which error
  it is refused (`IsRefused`).
* `describeAll_eq_ok_iff`, `describeAll_eq_error_iff`: all entries give matchers, in their order, or
  the first that is refused decides.
* `matchersOf_faithful`: all of it, for the matchers of a document and what they find.
-/

namespace LogSift.MatcherFile

open Matcher (Description Source IsFirstUnbuilt itemsOf sift)

/-! ## One entry -/

/-- Whether an entry gives a matcher: it passes the checks, and the matcher is built from it. -/
def IsDescribedBy (entry : Value) (d : Description) : Prop :=
  (Source.value entry).validate = .ok () ∧ Description.ofValue entry = .ok d

/-- Whether an entry is refused with an error: it does not pass the checks, or else the error is
that of its first sub-pattern that cannot be built, with the index that this has in the entry. -/
def IsRefused (entry : Value) (e : Matcher.Error) : Prop :=
  (Source.value entry).validate = .error e ∨
    (Source.value entry).validate = .ok () ∧ ∃ entries given items i, entry = .map entries ∧
      Entries.field? "pattern" entries = some given ∧ itemsOf given = .ok items ∧
      IsFirstUnbuilt 0 items i e

theorem describe_eq_ok_iff {entry : Value} {d : Description} :
    describe entry = .ok d ↔ IsDescribedBy entry d := by
  constructor
  · intro h
    obtain ⟨⟨⟩, hvalid, h⟩ := Outcome.bind_eq_ok.1 h
    exact ⟨hvalid, h⟩
  · rintro ⟨hvalid, h⟩
    rw [describe, hvalid, Outcome.ok_bind, h]

theorem describe_eq_error_iff {entry : Value} {e : Matcher.Error} :
    describe entry = .error e ↔ IsRefused entry e := by
  unfold describe IsRefused
  rw [Outcome.bind_eq_error]
  refine or_congr_right ?_
  constructor
  · rintro ⟨⟨⟩, hvalid, h⟩
    obtain ⟨entries, given, items, owner, rfl, hgiven, hitems, -, hbuild⟩ :=
      Matcher.exists_items_of_valid hvalid
    rw [hbuild, Outcome.map_eq_error] at h
    obtain ⟨i, hi⟩ := Matcher.subPatternsFrom_eq_error_iff.1 h
    exact ⟨hvalid, entries, given, items, i, rfl, hgiven, hitems, hi⟩
  · rintro ⟨hvalid, entries, given, items, i, rfl, hgiven, hitems, hi⟩
    obtain ⟨entries', given', items', owner, hentries, hgiven', hitems', -, hbuild⟩ :=
      Matcher.exists_items_of_valid hvalid
    cases hentries
    cases hgiven.symm.trans hgiven'
    cases hitems.symm.trans hitems'
    refine ⟨(), hvalid, ?_⟩
    rw [hbuild, Outcome.map_eq_error]
    exact Matcher.subPatternsFrom_eq_error_iff.2 ⟨i, hi⟩

/-- A matcher finds what the entry that gives it finds. -/
theorem sift_eq_of_isDescribedBy {entry : Value} {d : Description} (h : IsDescribedBy entry d)
    (input : Value) : sift (.description d) input = sift (.value entry) input := by
  rw [Matcher.sift_of_described (Matcher.validate_of_ofValue h.1 h.2) rfl,
    Matcher.sift_of_described h.1 h.2]

/-! ## All entries -/

theorem describeAll_eq_ok_iff {entries : List Value} {matchers : List Description} :
    describeAll entries = .ok matchers ↔ List.Forall₂ IsDescribedBy entries matchers := by
  induction entries generalizing matchers with
  | nil => simp [describeAll, eq_comm]
  | cons entry entries ih =>
    rw [List.forall₂_cons_left_iff]
    constructor
    · intro h
      obtain ⟨d, hd, h⟩ := Outcome.bind_eq_ok.1 h
      obtain ⟨more, hmore, h⟩ := Outcome.bind_eq_ok.1 h
      cases h
      exact ⟨d, more, describe_eq_ok_iff.1 hd, ih.1 hmore, rfl⟩
    · rintro ⟨d, more, hd, hmore, rfl⟩
      rw [describeAll, describe_eq_ok_iff.2 hd, Outcome.ok_bind, ih.2 hmore]
      rfl

theorem not_isRefused_of_isDescribedBy {entry : Value} {d : Description} {e : Matcher.Error}
    (h : IsDescribedBy entry d) : ¬ IsRefused entry e := by
  intro hrefused
  cases (describe_eq_ok_iff.2 h).symm.trans (describe_eq_error_iff.2 hrefused)

/-- The first entry that is refused decides. -/
theorem describeAll_eq_error_iff {entries : List Value} {e : Matcher.Error} :
    describeAll entries = .error e ↔
      ∃ before entry after, entries = before ++ entry :: after ∧
        (∀ b ∈ before, ∃ d, IsDescribedBy b d) ∧ IsRefused entry e := by
  induction entries with
  | nil => simp [describeAll]
  | cons entry entries ih =>
    rw [describeAll, Outcome.bind_eq_error]
    constructor
    · rintro (h | ⟨d, hd, h⟩)
      · exact ⟨[], entry, entries, rfl, by simp, describe_eq_error_iff.1 h⟩
      · rcases Outcome.bind_eq_error.1 h with h | ⟨more, -, h⟩
        · obtain ⟨before, bad, after, rfl, hbefore, hbad⟩ := ih.1 h
          exact ⟨entry :: before, bad, after, rfl,
            List.forall_mem_cons.2 ⟨⟨d, describe_eq_ok_iff.1 hd⟩, hbefore⟩, hbad⟩
        · cases h
    · rintro ⟨before, bad, after, heq, hbefore, hbad⟩
      cases before with
      | nil =>
        cases heq
        exact .inl (describe_eq_error_iff.2 hbad)
      | cons b before =>
        cases heq
        obtain ⟨⟨d, hd⟩, hbefore⟩ := List.forall_mem_cons.1 hbefore
        refine .inr ⟨d, describe_eq_ok_iff.2 hd, ?_⟩
        rw [ih.2 ⟨before, bad, after, rfl, hbefore, hbad⟩]
        rfl

/-- Entries that give a matcher each give all of them. -/
theorem exists_describeAll_iff {entries : List Value} :
    (∃ matchers, List.Forall₂ IsDescribedBy entries matchers) ↔
      ∀ entry ∈ entries, ∃ d, IsDescribedBy entry d := by
  constructor
  · rintro ⟨matchers, h⟩ entry hentry
    obtain ⟨d, -, hd⟩ := Matcher.exists_left_of_forall₂ h.flip hentry
    exact ⟨d, hd⟩
  · intro h
    cases hall : describeAll entries with
    | ok matchers => exact ⟨matchers, describeAll_eq_ok_iff.1 hall⟩
    | error e =>
      obtain ⟨before, entry, after, rfl, -, hentry⟩ := describeAll_eq_error_iff.1 hall
      obtain ⟨d, hd⟩ := h entry (by simp)
      exact absurd hentry (not_isRefused_of_isDescribedBy hd)

/-! ## Documents -/

/-- What a document holds in the place of its matchers: the value under `problemMatcher` in a map
that has one, a list as it is, and any other value as the only matcher. -/
def held (document : Value) : Value :=
  match document with
  | .map entries => (Entries.field? "problemMatcher" entries).getD (.list [document])
  | .list _ => document
  | _ => .list [document]

/-- What a document holds has a property of the document that goes over to the values in a map and
to a list of one item. -/
theorem held_of_document {P : Value → Prop} {document : Value} (h : P document)
    (hone : ∀ v, P v → P (.list [v]))
    (hfield : ∀ {fields : Entries Value} {key : Scalar} {v : Value}, P (.map fields) →
      fields.get? key = some v → P v) : P (held document) := by
  unfold held
  split
  · next fields =>
    cases hwrapped : Entries.field? "problemMatcher" fields with
    | none => exact hone _ h
    | some v => exact hfield h hwrapped
  · exact h
  · exact hone _ h

theorem entriesOf_eq_some_iff {document : Value} {entries : List Value} :
    entriesOf document = some entries ↔ held document = .list entries := by
  unfold entriesOf held
  cases document with
  | map fields =>
    dsimp only
    cases Entries.field? "problemMatcher" fields with
    | none => simp
    | some v => cases v <;> simp
  | list items => simp
  | _ => simp

theorem matchersOf_of_empty {document : Value}
    (h : ∀ entries, held document = .list entries → entries = []) :
    matchersOf document = .error .noMatchers := by
  simp only [← entriesOf_eq_some_iff] at h
  unfold matchersOf
  split
  · rfl
  · rfl
  · next entries hne hentries => exact (hne (h entries hentries)).elim

theorem matchersOf_of_held {document : Value} {entries : List Value}
    (h : held document = .list entries) (hne : entries ≠ []) :
    matchersOf document = (describeAll entries).mapError .matcher := by
  rw [← entriesOf_eq_some_iff] at h
  unfold matchersOf
  rw [h]
  cases entries with
  | nil => exact absurd rfl hne
  | cons entry entries =>
    dsimp only
    cases describeAll (entry :: entries) with
    | error e => rfl
    | ok matchers => rfl

theorem matchersOf_eq_ok_iff {document : Value} {matchers : List Description} :
    matchersOf document = .ok matchers ↔ ∃ entries, held document = .list entries ∧
      entries ≠ [] ∧ List.Forall₂ IsDescribedBy entries matchers := by
  by_cases h : ∃ entries, held document = .list entries ∧ entries ≠ []
  · obtain ⟨entries, hentries, hne⟩ := h
    rw [matchersOf_of_held hentries hne]
    simp [hentries, hne, ← describeAll_eq_ok_iff, Outcome.mapError_eq_ok]
  · rw [matchersOf_of_empty (by simpa using h)]
    simp only [reduceCtorEq, false_iff]
    rintro ⟨entries, hentries, hne, -⟩
    exact h ⟨entries, hentries, hne⟩

theorem matchersOf_eq_error_iff {document : Value} {e : DocumentError} :
    matchersOf document = .error e ↔
      (∀ entries, held document = .list entries → entries = []) ∧ e = .noMatchers ∨
      ∃ before entry after cause, held document = .list (before ++ entry :: after) ∧
        (∀ b ∈ before, ∃ d, IsDescribedBy b d) ∧ IsRefused entry cause ∧ e = .matcher cause := by
  by_cases h : ∃ entries, held document = .list entries ∧ entries ≠ []
  · obtain ⟨entries, hentries, hne⟩ := h
    rw [matchersOf_of_held hentries hne, Outcome.mapError_eq_error]
    constructor
    · rintro ⟨cause, h, rfl⟩
      obtain ⟨before, entry, after, rfl, hbefore, hentry⟩ := describeAll_eq_error_iff.1 h
      exact .inr ⟨before, entry, after, cause, hentries, hbefore, hentry, rfl⟩
    · rintro (⟨hempty, -⟩ | ⟨before, entry, after, cause, hentries', hbefore, hentry, rfl⟩)
      · exact absurd (hempty entries hentries) hne
      · cases hentries.symm.trans hentries'
        exact ⟨cause, describeAll_eq_error_iff.2 ⟨before, entry, after, rfl, hbefore, hentry⟩, rfl⟩
  · have hempty : ∀ entries, held document = .list entries → entries = [] := by simpa using h
    rw [matchersOf_of_empty hempty]
    constructor
    · intro he
      cases he
      exact .inl ⟨hempty, rfl⟩
    · rintro (⟨-, rfl⟩ | ⟨before, entry, after, cause, hentries, -⟩)
      · rfl
      · exact absurd (hempty _ hentries) (by simp)

/-! ## All of a document -/

/-- **A document is a wrapper around its matchers.** It gives matchers just if it holds a list of
entries, at least one, that give a matcher each. There is a matcher for each entry, in order, and
one that is selected finds in every input what its entry finds in it. Otherwise there is nothing to
be had, or the first entry that is refused decides the error. -/
theorem matchersOf_faithful (document : Value) :
    ((∃ matchers, matchersOf document = .ok matchers) ↔
      ∃ entries, held document = .list entries ∧ entries ≠ [] ∧
        ∀ entry ∈ entries, ∃ d, IsDescribedBy entry d) ∧
    (∀ matchers, matchersOf document = .ok matchers →
      ∃ entries, held document = .list entries ∧ matchers.length = entries.length ∧
        (∀ (i : Nat) entry d, entries[i]? = some entry → matchers[i]? = some d →
          IsDescribedBy entry d) ∧
        ∀ owner d, select matchers owner = .ok d → d ∈ matchers ∧
          ∀ (i : Nat) entry, matchers[i]? = some d → entries[i]? = some entry →
            ∀ input, sift (.description d) input = sift (.value entry) input) ∧
    ∀ e, matchersOf document = .error e ↔
      (∀ entries, held document = .list entries → entries = []) ∧ e = .noMatchers ∨
      ∃ before entry after cause, held document = .list (before ++ entry :: after) ∧
        (∀ b ∈ before, ∃ d, IsDescribedBy b d) ∧ IsRefused entry cause ∧ e = .matcher cause := by
  refine ⟨?_, fun matchers h => ?_, fun e => matchersOf_eq_error_iff⟩
  · simp only [matchersOf_eq_ok_iff, ← exists_describeAll_iff]
    rw [exists_comm]
    simp only [exists_and_left]
  · obtain ⟨entries, hentries, -, hall⟩ := matchersOf_eq_ok_iff.1 h
    have hbuilt : ∀ (i : Nat) entry d, entries[i]? = some entry → matchers[i]? = some d →
        IsDescribedBy entry d := by
      intro i entry d hentry hd
      obtain ⟨hi, rfl⟩ := List.getElem?_eq_some_iff.1 hentry
      obtain ⟨hi', rfl⟩ := List.getElem?_eq_some_iff.1 hd
      exact hall.get hi hi'
    refine ⟨entries, hentries, hall.length_eq.symm, hbuilt, fun owner d hselect =>
      ⟨mem_of_select hselect, fun i entry hd hentry input => ?_⟩⟩
    exact sift_eq_of_isDescribedBy (hbuilt i entry d hentry hd) input

/-- Two matchers of reports in one document, one with a severity: the second is selected by its
owner. -/
def twoReports : Value :=
  .map [(.text "problemMatcher", .list [Matcher.reportValue,
    .map [(.text "owner", .text "graded"), (.text "severity", .text "warning"),
      (.text "pattern", .list [.map [(.text "regexp", .text "x")]])]])]

/-- The matcher that is selected finds what the second entry finds. -/
theorem matchersOf_faithful_twoReports :
    ∃ matchers d, matchersOf twoReports = .ok matchers ∧ matchers.length = 2 ∧
      select matchers (.text "graded") = .ok d ∧ ∀ input, sift (.description d) input =
        sift (.value (.map [(.text "owner", .text "graded"), (.text "severity", .text "warning"),
          (.text "pattern", .list [.map [(.text "regexp", .text "x")]])])) input := by
  have hmatchers : matchersOf twoReports = .ok [Matcher.report,
      ⟨.text "graded", [⟨"x", [], false⟩], .text "warning"⟩] := by decide +kernel
  obtain ⟨entries, hentries, -, -, hselect⟩ := (matchersOf_faithful twoReports).2.1 _ hmatchers
  cases (show Value.list _ = .list entries from hentries)
  have hgraded : select [Matcher.report, ⟨.text "graded", [⟨"x", [], false⟩], .text "warning"⟩]
      (.text "graded") = .ok ⟨.text "graded", [⟨"x", [], false⟩], .text "warning"⟩ := by
    decide +kernel
  exact ⟨_, _, hmatchers, rfl, hgraded, (hselect _ _ hgraded).2 1 _ rfl rfl⟩

end LogSift.MatcherFile
