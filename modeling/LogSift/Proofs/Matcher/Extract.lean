import Mathlib.Data.List.ReduceOption
import LogSift.Matcher.Run
import LogSift.Outcome
import LogSift.Proofs.Entries

/-!
# Reading one line

* `Rule.extract_eq_none_iff`: a rule gives no record just for the lines that its expression does
  not match. `Rule.extract_eq_some_iff`: what its records are made of.
* `fieldValue_eq_ok_iff`: what a field reads from a match (`IsCaptured`).
* `Rule.fault?`: the error of a line, told by its match and the fields alone. It is the error with
  which the rule fails (`Rule.error?_extract`).
* `extract_of_mapM`: of several readings those give a record whose rule matches its line.
* `headerReadings`: what several headers read from a line; their context is the merge of it
  (`contextOf_eq`).
-/

namespace LogSift.Matcher

/-! ## One rule -/

theorem Rule.extract_of_search_none {rule : Rule} {line : List Char}
    (h : rule.regex.search line = none) (severity : Value) :
    rule.extract severity line = .ok none := by
  simp only [Rule.extract, Matcher.extract, h]

theorem Rule.extract_of_search {rule : Rule} {line : List Char} {m : Regex.Match}
    (h : rule.regex.search line = some m) (severity : Value) :
    rule.extract severity line =
      if m.isSound rule.regex.groupCount then
        (fun record => some (withSeverity severity record)) <$>
          fieldValues rule.regex.groupCount m rule.fields
      else .error .brokenMatch := by
  simp only [Rule.extract, Matcher.extract, h]
  split
  · rfl
  · rfl

theorem Rule.extract_eq_none_iff {rule : Rule} {severity : Value} {line : List Char} :
    rule.extract severity line = .ok none ↔ rule.regex.search line = none := by
  refine ⟨fun h => ?_, fun h => rule.extract_of_search_none h severity⟩
  cases hm : rule.regex.search line with
  | none => rfl
  | some m =>
    rw [Rule.extract_of_search hm] at h
    split at h
    · cases hv : fieldValues rule.regex.groupCount m rule.fields with
      | error e => rw [hv] at h; cases h
      | ok record => rw [hv] at h; cases h
    · cases h

theorem Rule.search_isSome_of_extract {rule : Rule} {severity : Value} {line : List Char}
    {record : Record} (h : rule.extract severity line = .ok (some record)) :
    (rule.regex.search line).isSome := by
  rw [Option.isSome_iff_ne_none]
  intro hnone
  rw [Rule.extract_of_search_none hnone] at h
  cases h

/-- A record is made of the fields of a match and the severity of the matcher. -/
theorem Rule.extract_eq_some_iff {rule : Rule} {severity : Value} {line : List Char}
    {record : Record} :
    rule.extract severity line = .ok (some record) ↔ ∃ m own, rule.regex.search line = some m ∧
      m.isSound rule.regex.groupCount = true ∧
      fieldValues rule.regex.groupCount m rule.fields = .ok own ∧
      withSeverity severity own = record := by
  constructor
  · intro h
    obtain ⟨m, hm⟩ := Option.isSome_iff_exists.1 (Rule.search_isSome_of_extract h)
    rw [Rule.extract_of_search hm] at h
    split at h
    · next hsound =>
      obtain ⟨own, hown, hrecord⟩ := Outcome.map_eq_ok.1 h
      exact ⟨m, own, hm, hsound, hown, Option.some.inj hrecord⟩
    · cases h
  · rintro ⟨m, own, hm, hsound, hown, rfl⟩
    rw [Rule.extract_of_search hm, if_pos hsound, hown]
    rfl

/-- Of several readings those give a record whose rule matches its line. -/
theorem extract_of_mapM {α : Type} {rule : α → Rule} {line : α → List Char} {severity : Value}
    {xs : List α} {found : List (Option Record)}
    (h : xs.mapM (fun x => (rule x).extract severity (line x)) = .ok found) :
    List.Forall₂ (fun x record => (rule x).extract severity (line x) = .ok (some record))
      (xs.filter fun x => ((rule x).regex.search (line x)).isSome) found.reduceOption := by
  induction xs generalizing found with
  | nil =>
    cases h
    exact .nil
  | cons x xs ih =>
    rw [List.mapM_cons] at h
    obtain ⟨first, hfirst, h⟩ := Outcome.bind_eq_ok.1 h
    obtain ⟨more, hmore, h⟩ := Outcome.bind_eq_ok.1 h
    cases h
    cases first with
    | none =>
      rw [List.filter_cons_of_neg (by simp [Rule.extract_eq_none_iff.1 hfirst]),
        List.reduceOption_cons_of_none]
      exact ih hmore
    | some record =>
      have hmatch := Rule.search_isSome_of_extract hfirst
      rw [List.filter_cons_of_pos (by exact hmatch), List.reduceOption_cons_of_some]
      exact .cons hfirst (ih hmore)

/-! ## The fields of a match -/

/-- What a field reads from a match: the text that the group with its number has matched, without
blanks at its ends. There is such a group, and it has matched some text. -/
def IsCaptured (groups : Nat) (m : Regex.Match) (group v : Value) : Prop :=
  ∃ (n : Int) (part : List Char), group = .int n ∧ capture? groups m n = some part ∧ part ≠ [] ∧
    v = .text (String.ofList (Text.trim part))

theorem fieldValue_eq_ok_iff {groups : Nat} {m : Regex.Match} {name : Scalar} {group v : Value} :
    fieldValue groups m name group = .ok v ↔ IsCaptured groups m group v := by
  constructor
  · intro h
    unfold fieldValue at h
    split at h
    · next n =>
      split at h
      · cases h
      · split at h
        · next c cs hcapture =>
          cases h
          exact ⟨n, c :: cs, rfl, hcapture, by simp, rfl⟩
        · cases h
    · cases h
  · rintro ⟨n, part, rfl, hcapture, hpart, rfl⟩
    have hn : n ≠ 0 := by
      rintro rfl
      simp [capture?] at hcapture
    cases part with
    | nil => exact absurd rfl hpart
    | cons c cs => simp [fieldValue, hn, hcapture]

/-- The values of fields stand under their names, in order. -/
theorem forall₂_of_fieldValues {groups : Nat} {m : Regex.Match} {fields : Entries Value}
    {record : Record} (h : fieldValues groups m fields = .ok record) :
    List.Forall₂ (fun field e => e.1 = field.1 ∧ IsCaptured groups m field.2 e.2)
      fields record := by
  induction fields generalizing record with
  | nil =>
    cases h
    exact .nil
  | cons field fields ih =>
    obtain ⟨v, hv, h⟩ := Outcome.bind_eq_ok.1 h
    obtain ⟨more, hmore, h⟩ := Outcome.bind_eq_ok.1 h
    cases h
    exact .cons ⟨rfl, fieldValue_eq_ok_iff.1 hv⟩ (ih hmore)

/-! ## The severity of a record -/

/-- A record with a severity of its own stays as it is. -/
theorem withSeverity_of_own {record : Record} {v : Value}
    (h : Entries.field? "severity" record = some v) (hv : v.isTrue = true) (severity : Value) :
    withSeverity severity record = record := by
  unfold withSeverity
  split
  · rfl
  · simp [h, hv]

/-- A record without a severity of its own gets that of the matcher. -/
theorem withSeverity_of_not_own {severity : Value} {record : Record} (hnull : severity ≠ .null)
    (h : ∀ v, Entries.field? "severity" record = some v → v.isTrue = false) :
    withSeverity severity record = record.set (.text "severity") severity := by
  unfold withSeverity
  split
  · exact absurd rfl hnull
  · cases hfield : Entries.field? "severity" record with
    | none => simp
    | some v => simp [h v hfield]

/-! ## The error of a line -/

/-- Whether a field names a group of a match that has matched some text: a whole number from one
up to the number of groups. -/
def isReadable (groups : Nat) (m : Regex.Match) : Value → Bool
  | .int n => 0 < n && n ≤ groups && (m.group? n.toNat).any fun text => !text.isEmpty
  | _ => false

/-- The error of a field that is not readable. -/
def fieldFault (name : Scalar) (group : Value) : Error :=
  match group with
  | .int n => if n = 0 then .groupZero else .noGroup group name
  | _ => .noGroup group name

theorem fieldFault_of_ne {group : Value} (h : group ≠ .int 0) (name : Scalar) :
    fieldFault name group = .noGroup group name := by
  unfold fieldFault
  split
  · next n =>
    rw [if_neg]
    rintro rfl
    exact h rfl
  · rfl

/-- The error of the first of the fields that is not readable. -/
def fieldsFault? (groups : Nat) (m : Regex.Match) (fields : Entries Value) : Option Error :=
  (fields.find? fun field => !isReadable groups m field.2).map fun field =>
    fieldFault field.1 field.2

/-- The error of a line that the expression matches: its groups make no sense, or else a field is
not readable. -/
def Rule.fault? (rule : Rule) (line : List Char) : Option Error :=
  (rule.regex.search line).bind fun m =>
    if m.isSound rule.regex.groupCount then fieldsFault? rule.regex.groupCount m rule.fields
    else some .brokenMatch

/-- Whether a message can show every field. -/
def AreShowable (fields : Entries Value) : Prop :=
  ∀ field ∈ fields, field.1.isShowable = true ∧ field.2.isShowable = true

theorem fieldValue_of_readable {groups : Nat} {m : Regex.Match} {group : Value}
    (h : isReadable groups m group = true) (name : Scalar) :
    Outcome.error? (fieldValue groups m name group) = none := by
  unfold isReadable at h
  split at h
  · next n =>
    simp only [Bool.and_eq_true, decide_eq_true_eq] at h
    obtain ⟨⟨hpos, hle⟩, htext⟩ := h
    have hne : n ≠ 0 := by omega
    cases hg : m.group? n.toNat with
    | none => simp [hg] at htext
    | some text =>
      cases text with
      | nil => simp [hg] at htext
      | cons c cs => simp [fieldValue, capture?, hne, hpos, hle, hg]
  · cases h

theorem fieldValue_of_not_readable {groups : Nat} {m : Regex.Match} {name : Scalar} {group : Value}
    (h : isReadable groups m group = false) (hname : name.isShowable = true)
    (hgroup : group.isShowable = true) :
    fieldValue groups m name group = .error (fieldFault name group) := by
  have hrefuse : refuseGroup group name = .noGroup group name := by
    simp [refuseGroup, hname, hgroup]
  by_cases hint : ∃ n, group = .int n
  · obtain ⟨n, rfl⟩ := hint
    simp only [fieldValue, fieldFault]
    by_cases hzero : n = 0
    · simp [hzero]
    · simp only [isReadable, capture?, hzero, if_false, hrefuse] at h ⊢
      by_cases hrange : 0 < n ∧ n ≤ groups
      · simp only [hrange, and_self, if_true, decide_true, Bool.true_and] at h ⊢
        cases hg : m.group? n.toNat with
        | none => rfl
        | some text =>
          cases text with
          | nil => rfl
          | cons c cs => simp [hg] at h
      · simp [hrange]
  · have hvalue : fieldValue groups m name group = .error (refuseGroup group name) := by
      unfold fieldValue
      split
      · next n => exact absurd ⟨n, rfl⟩ hint
      · rfl
    rw [hvalue, fieldFault_of_ne fun hzero => hint ⟨0, hzero⟩, hrefuse]

theorem error?_fieldValues {groups : Nat} {m : Regex.Match} {fields : Entries Value}
    (hshow : AreShowable fields) :
    Outcome.error? (fieldValues groups m fields) = fieldsFault? groups m fields := by
  induction fields with
  | nil => rfl
  | cons field fields ih =>
    obtain ⟨⟨hname, hgroup⟩, hrest⟩ := List.forall_mem_cons.1 hshow
    have hlater (v : Value) : Outcome.error? (do
        return (field.1, v) :: (← fieldValues groups m fields)) = fieldsFault? groups m fields := by
      rw [← ih hrest]
      simp
    rw [fieldValues, Outcome.error?_bind fun v _ => hlater v]
    cases hread : isReadable groups m field.2 with
    | false =>
      rw [fieldValue_of_not_readable hread hname hgroup]
      simp [fieldsFault?, hread]
    | true =>
      rw [fieldValue_of_readable hread]
      simp [fieldsFault?, hread]

/-- A rule fails with the error that the match and the fields tell. -/
theorem Rule.error?_extract {rule : Rule} (hshow : AreShowable rule.fields) (severity : Value)
    (line : List Char) : Outcome.error? (rule.extract severity line) = rule.fault? line := by
  cases hm : rule.regex.search line with
  | none => simp [Rule.extract_of_search_none hm, Rule.fault?, hm]
  | some m =>
    rw [Rule.extract_of_search hm, Rule.fault?, hm, Option.bind_some]
    split
    · rw [Outcome.error?_map, error?_fieldValues hshow]
    · rfl

/-! ## Several headers -/

/-- What the headers that match a line read from it, in order. -/
def headerReadings (headers : List Rule) (severity : Value) (line : List Char) :
    Except Error (List Record) := do
  return (← headers.mapM (Rule.extract · severity line)).reduceOption

/-- There is a reading for each header that matches. -/
theorem extract_of_headerReadings {headers : List Rule} {severity : Value} {line : List Char}
    {readings : List Record} (h : headerReadings headers severity line = .ok readings) :
    List.Forall₂ (fun rule record => rule.extract severity line = .ok (some record))
      (headers.filter fun rule => (rule.regex.search line).isSome) readings := by
  obtain ⟨found, hfound, h⟩ := Outcome.bind_eq_ok.1 h
  cases h
  exact extract_of_mapM hfound

theorem headerReadings_cons (rule : Rule) (headers : List Rule) (severity : Value)
    (line : List Char) :
    headerReadings (rule :: headers) severity line = do
      let found ← rule.extract severity line
      return found.toList ++ (← headerReadings headers severity line) := by
  cases hfound : rule.extract severity line with
  | error e => simp [headerReadings, hfound]
  | ok found =>
    cases found with
    | none =>
      simp [headerReadings, hfound, List.reduceOption_cons_of_none]
    | some fields =>
      simp [headerReadings, hfound, List.reduceOption_cons_of_some]

theorem headerFields_eq (headers : List Rule) (severity : Value) (line : List Char)
    (record : Record) :
    headerFields severity line record headers =
      (fun readings => readings.foldl Entries.merge record) <$>
        headerReadings headers severity line := by
  induction headers generalizing record with
  | nil => rfl
  | cons rule headers ih =>
    rw [headerFields, headerReadings_cons]
    cases hfound : rule.extract severity line with
    | error e => rfl
    | ok found =>
      cases found with
      | none => simp [ih]
      | some fields => simp [ih]

/-- The context of a header line is the merge of what the headers read from it. -/
theorem contextOf_eq (headers : List Rule) (severity : Value) (line : List Char) :
    contextOf headers severity line =
      (fun readings => readings.foldl Entries.merge []) <$>
        headerReadings headers severity line :=
  headerFields_eq headers severity line []

/-- The error of a header line is that of the first header that has one. -/
theorem error?_contextOf {headers : List Rule}
    (hshow : ∀ rule ∈ headers, AreShowable rule.fields) (severity : Value) (line : List Char) :
    Outcome.error? (contextOf headers severity line) =
      headers.findSome? (Rule.fault? · line) := by
  rw [contextOf_eq, Outcome.error?_map]
  induction headers with
  | nil => rfl
  | cons rule headers ih =>
    obtain ⟨hhere, hrest⟩ := List.forall_mem_cons.1 hshow
    have hlater (found : Option Record) : Outcome.error? (do
        return found.toList ++ (← headerReadings headers severity line)) =
          headers.findSome? (Rule.fault? · line) := by
      rw [← ih hrest]
      simp
    rw [headerReadings_cons, Outcome.error?_bind fun found _ => hlater found,
      Rule.error?_extract hhere, List.findSome?_cons]
    cases rule.fault? line with
    | none => rfl
    | some e => rfl

end LogSift.Matcher
