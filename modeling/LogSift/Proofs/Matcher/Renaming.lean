import Mathlib.Logic.Equiv.Basic
import LogSift.Proofs.Matcher.Build
import LogSift.Proofs.Matcher.Scan

/-!
# Names of fields

The severity apart, what a field is called does not matter. A `Renaming` gives other names to the
fields of a matcher. Each stage of a run on the renamed matcher has the outcome of the same stage on
the matcher itself, with other names in its records and in its error (`Outcome.mapBoth`).

* `fieldValues_rename`, `extract_rename`: the fields of a match and the record of a line.
* `loopScan_rename`, `records_rename`: a scan with a loop and the records of a text.
* `ofValue_rename`: the description of the renamed matcher.
* `sift_rename`: the whole run.
-/

namespace LogSift.Matcher

/-- Other names for fields. Different fields have different names, the severity keeps its name, and
no field gets the name of an entry that is no field. -/
structure Renaming where
  name : String → String
  injective : Function.Injective name
  severity : name "severity" = "severity"
  free : ∀ s, s ≠ "regexp" → s ≠ "loop" → name s ≠ "regexp" ∧ name s ≠ "loop"

namespace Renaming

variable (ρ : Renaming)

/-! ## Keys -/

/-- The other name of a field. -/
def key : Scalar → Scalar
  | .text s => .text (ρ.name s)
  | k => k

/-- What stands in a sub-pattern for a key: the other name of a field; what is no field stays. -/
def partKey (k : Scalar) : Scalar := if isReserved k then k else ρ.key k

theorem key_severity : ρ.key (.text "severity") = .text "severity" := by rw [key, ρ.severity]

theorem key_eq_text_iff {k : Scalar} {s : String} : ρ.key k = .text (ρ.name s) ↔ k = .text s := by
  cases k with
  | text t => simp [key, ρ.injective.eq_iff]
  | _ => simp [key]

theorem keepsKeys_key : Entries.KeepsKeys ρ.key := by
  have htext (s : String) (k : Scalar) :
      (ρ.key (.text s)).sameKey (ρ.key k) = (Scalar.text s).sameKey k := by
    rw [Bool.eq_iff_iff, key, Scalar.sameKey_text_iff, Scalar.sameKey_text_iff, key_eq_text_iff]
  intro a b
  cases a with
  | text s => exact htext s b
  | _ =>
    cases b with
    | text t => rw [Scalar.sameKey_comm, htext, Scalar.sameKey_comm]
    | _ => rfl

theorem isReserved_key {k : Scalar} (h : isReserved k = false) : isReserved (ρ.key k) = false := by
  rw [Bool.eq_false_iff, Ne, isReserved_iff] at h ⊢
  cases k with
  | text s =>
    simp only [key, Scalar.text.injEq, not_or] at h ⊢
    exact ρ.free s h.1 h.2
  | _ => exact h

@[simp] theorem isReserved_partKey (k : Scalar) : isReserved (ρ.partKey k) = isReserved k := by
  unfold partKey
  split
  · rfl
  · next h => rw [isReserved_key ρ (by simpa using h), Bool.eq_false_iff.2 h]

theorem partKey_of_reserved {k : Scalar} (h : isReserved k = true) : ρ.partKey k = k := if_pos h

theorem partKey_of_field {k : Scalar} (h : isReserved k = false) : ρ.partKey k = ρ.key k :=
  if_neg (by simp [h])

theorem keepsKeys_partKey : Entries.KeepsKeys ρ.partKey := by
  intro a b
  have hcongr {c d : Scalar} (h : c.sameKey d = true) : isReserved c = isReserved d := by
    simp only [isReserved, Scalar.sameKey_congr h]
  by_cases h : isReserved a = isReserved b
  · cases ha : isReserved a with
    | true => rw [ρ.partKey_of_reserved ha, ρ.partKey_of_reserved (h ▸ ha)]
    | false => rw [ρ.partKey_of_field ha, ρ.partKey_of_field (h ▸ ha), ρ.keepsKeys_key]
  · -- A field stays apart from what is no field.
    have hdiffer : (ρ.partKey a).sameKey (ρ.partKey b) = false :=
      Bool.eq_false_iff.2 fun hsame => h (by simpa using hcongr hsame)
    rw [hdiffer, Bool.eq_false_iff.2 fun hsame => h (hcongr hsame)]

/-! ## Matchers and outcomes -/

/-- A record, or the fields of a sub-pattern, with the other names. -/
def entries (m : Entries Value) : Entries Value := m.mapKeys ρ.key

/-- The error with the other name of the field that it is about. -/
def error : Error → Error
  | .noGroup group field => .noGroup group (ρ.key field)
  | e => e

/-- A rule with other names for its fields. -/
def rule (r : Rule) : Rule := ⟨r.regex, ρ.entries r.fields⟩

/-- A sub-pattern with other names for its fields. -/
def subPattern (s : SubPattern) : SubPattern := { s with fields := ρ.entries s.fields }

/-- A description with other names for the fields of its sub-patterns. -/
def description (d : Description) : Description :=
  { d with pattern := d.pattern.map ρ.subPattern }

/-- A sub-pattern in writing with other names for its fields. -/
def part : Value → Value
  | .map es => .map (Entries.mapKeys ρ.partKey es)
  | v => v

/-- Sub-patterns in writing with other names for their fields. -/
def pattern : Value → Value
  | .list items => .list (items.map ρ.part)
  | .pair a b => .pair (ρ.part a) (ρ.part b)
  | v => v

/-- A matcher in writing with other names for the fields of its sub-patterns. -/
def matcher : Value → Value
  | .map es => .map (Entries.mapAt (.text "pattern") ρ.pattern es)
  | v => v

/-- An outcome in which records have the other names. -/
abbrev outcome (x : Except Error (List Record)) : Except Error (List Record) :=
  Outcome.mapBoth ρ.error (List.map ρ.entries) x

/-! ## One line -/

theorem fieldValue_rename (groups : Nat) (m : Regex.Match) (name : Scalar) (group : Value) :
    fieldValue groups m (ρ.key name) group =
      Outcome.mapBoth ρ.error id (fieldValue groups m name group) := by
  have hshow : (ρ.key name).isShowable = name.isShowable := by
    cases name with
    | _ => rfl
  have hrefuse : refuseGroup group (ρ.key name) = ρ.error (refuseGroup group name) := by
    unfold refuseGroup
    rw [hshow]
    split
    · rfl
    · rfl
  unfold fieldValue
  split
  · next n =>
    split
    · rfl
    · split
      · rfl
      · rw [hrefuse, Outcome.mapBoth_error]
  · rw [hrefuse, Outcome.mapBoth_error]

theorem fieldValues_rename (groups : Nat) (m : Regex.Match) (fields : Entries Value) :
    fieldValues groups m (ρ.entries fields) =
      Outcome.mapBoth ρ.error ρ.entries (fieldValues groups m fields) := by
  induction fields with
  | nil => rfl
  | cons field fields ih =>
    have hcons : ρ.entries (field :: fields) = (ρ.key field.1, field.2) :: ρ.entries fields := rfl
    rw [hcons, fieldValues, fieldValues, fieldValue_rename, ih]
    exact Outcome.mapBoth_bind fun v _ => Outcome.mapBoth_bind fun more _ => rfl

theorem withSeverity_rename (severity : Value) (record : Record) :
    withSeverity severity (ρ.entries record) = ρ.entries (withSeverity severity record) := by
  have hget : Entries.field? "severity" (ρ.entries record) = Entries.field? "severity" record := by
    have hkey := Entries.get?_mapKeys ρ.keepsKeys_key (.text "severity") record
    rwa [key_severity] at hkey
  have hset : (ρ.entries record).set (.text "severity") severity =
      ρ.entries (record.set (.text "severity") severity) := by
    rw [entries, entries, Entries.mapKeys_set ρ.keepsKeys_key, key_severity]
  unfold withSeverity
  rw [hget]
  split
  · rfl
  · dsimp only
    rw [hset]
    split
    · rfl
    · rfl

theorem merge_rename (r r' : Record) :
    ρ.entries (r.merge r') = (ρ.entries r).merge (ρ.entries r') :=
  Entries.mapKeys_merge ρ.keepsKeys_key r r'

theorem extract_rename (r : Rule) (severity : Value) (line : List Char) :
    (ρ.rule r).extract severity line =
      Outcome.mapBoth ρ.error (Option.map ρ.entries) (r.extract severity line) := by
  have hregex : (ρ.rule r).regex = r.regex := rfl
  cases hm : r.regex.search line with
  | none =>
    rw [Rule.extract_of_search_none hm, Rule.extract_of_search_none (hregex ▸ hm)]
    rfl
  | some m =>
    rw [Rule.extract_of_search hm, Rule.extract_of_search (hregex ▸ hm), hregex]
    split
    · rw [show (ρ.rule r).fields = ρ.entries r.fields from rfl, fieldValues_rename]
      exact Outcome.mapBoth_map fun record => congrArg some (ρ.withSeverity_rename severity record)
    · rfl

/-! ## Lines -/

theorem singleRecords_rename (r : Rule) (severity : Value) (lines : List (List Char)) :
    singleRecords (ρ.rule r) severity lines = ρ.outcome (singleRecords r severity lines) := by
  induction lines with
  | nil => rfl
  | cons line lines ih =>
    rw [singleRecords, singleRecords, extract_rename, ih]
    refine Outcome.mapBoth_bind fun found _ => Outcome.mapBoth_bind fun records _ => ?_
    cases found with
    | none => rfl
    | some record => rfl

section

variable (headers : List Rule) (loop : Rule) (severity : Value)

theorem headerFields_rename (line : List Char) (record : Record) :
    headerFields severity line (ρ.entries record) (headers.map ρ.rule) =
      Outcome.mapBoth ρ.error ρ.entries (headerFields severity line record headers) := by
  induction headers generalizing record with
  | nil => rfl
  | cons r headers ih =>
    rw [List.map_cons, headerFields, headerFields, extract_rename]
    refine Outcome.mapBoth_bind fun found _ => ?_
    cases found with
    | none => exact ih record
    | some fields =>
      dsimp only [Option.map_some]
      rw [← ih, merge_rename]

/-- The state of a scan and the records that it has given, with the other names. -/
def scan (s : Option Record × List Record) : Option Record × List Record :=
  (s.1.map ρ.entries, s.2.map ρ.entries)

theorem loopStep_rename (context : Option Record) (line : List Char) :
    loopStep (headers.map ρ.rule) (ρ.rule loop) severity (context.map ρ.entries) line =
      Outcome.mapBoth ρ.error ρ.scan (loopStep headers loop severity context line) := by
  have hstart : (do return (some (← contextOf (headers.map ρ.rule) severity line), [])) =
      Outcome.mapBoth ρ.error ρ.scan
        (do return (some (← contextOf headers severity line), [])) := by
    rw [contextOf, show ([] : Record) = ρ.entries [] from rfl, headerFields_rename]
    exact Outcome.mapBoth_bind fun context _ => rfl
  cases context with
  | none => exact hstart
  | some context =>
    unfold loopStep
    dsimp only [Option.map_some]
    split
    · rfl
    · rw [extract_rename]
      refine Outcome.mapBoth_bind fun found _ => ?_
      cases found with
      | none => exact hstart
      | some fields =>
        dsimp only [Option.map_some]
        rw [← merge_rename]
        rfl

theorem loopScan_rename (context : Option Record) (lines : List (List Char)) :
    loopScan (headers.map ρ.rule) (ρ.rule loop) severity (context.map ρ.entries) lines =
      Outcome.mapBoth ρ.error ρ.scan (loopScan headers loop severity context lines) := by
  induction lines generalizing context with
  | nil => rfl
  | cons line lines ih =>
    rw [loopScan, loopScan, loopStep_rename]
    refine Outcome.mapBoth_bind fun step _ => ?_
    dsimp only [scan]
    rw [ih]
    exact Outcome.mapBoth_bind fun later _ =>
      congrArg Except.ok (Prod.ext rfl List.map_append.symm)

theorem loopRecords_rename (lines : List (List Char)) :
    loopRecords (headers.map ρ.rule) (ρ.rule loop) severity lines =
      ρ.outcome (loopRecords headers loop severity lines) := by
  rw [loopRecords_eq, loopRecords_eq, scanRecords, scanRecords,
    show (none : Option Record) = none.map ρ.entries from rfl, loopScan_rename]
  exact Outcome.mapBoth_map fun _ => rfl

end

/-! ## Descriptions -/

/-- Whether an outcome does not depend on names: its error is not about a field. -/
def Spares {α : Type} (x : Except Error α) : Prop := Outcome.mapBoth ρ.error id x = x

variable {ρ}

theorem Spares.bind {α β γ : Type} {x : Except Error α} {k : α → Except Error β}
    {k' : α → Except Error γ} {h : β → γ} (hx : ρ.Spares x)
    (hk : ∀ a, x = .ok a → k' a = Outcome.mapBoth ρ.error h (k a)) :
    x >>= k' = Outcome.mapBoth ρ.error h (x >>= k) := by
  conv => lhs; rw [← hx]
  exact Outcome.mapBoth_bind hk

theorem spares_compile (index : Nat) (regexp : String) : ρ.Spares (compile index regexp) := by
  unfold compile
  split
  · rfl
  · rfl
  · rfl

theorem spares_mode (d : Description) : ρ.Spares d.mode := by
  unfold Description.mode
  split
  · rfl
  · split
    · rfl
    · rfl

variable (ρ)

theorem rulesFrom_rename (index : Nat) (pattern : List SubPattern) :
    rulesFrom index (pattern.map ρ.subPattern) =
      Outcome.mapBoth ρ.error (List.map ρ.rule) (rulesFrom index pattern) := by
  induction pattern generalizing index with
  | nil => rfl
  | cons s pattern ih =>
    rw [List.map_cons, rulesFrom, rulesFrom, ih]
    exact (spares_compile index s.regexp).bind fun regex _ =>
      Outcome.mapBoth_bind fun rules _ => rfl

theorem mode_rename (d : Description) : (ρ.description d).mode = d.mode := by
  refine mode_congr ?_
  rw [description, List.map_map]
  rfl

theorem records_rename (d : Description) (mode : Mode) (text : String) :
    (ρ.description d).records mode text = ρ.outcome (d.records mode text) := by
  cases mode with
  | single =>
    obtain ⟨owner, pattern, severity⟩ := d
    cases pattern with
    | nil => rfl
    | cons s rest =>
      exact (spares_compile 0 s.regexp).bind fun regex _ =>
        ρ.singleRecords_rename ⟨regex, s.fields⟩ severity (Text.lines text.toList)
  | loop =>
    unfold Description.records
    dsimp only [description]
    rw [rulesFrom_rename]
    refine Outcome.mapBoth_bind fun rules _ => ?_
    rw [List.getLast?_map, ← List.map_dropLast]
    cases rules.getLast? with
    | none => rfl
    | some loop => exact ρ.loopRecords_rename rules.dropLast loop d.severity _

/-! ## Matchers in writing -/

theorem fieldsOf_rename (es : Entries Value) :
    fieldsOf (es.mapKeys ρ.partKey) = Outcome.mapBoth ρ.error ρ.entries (fieldsOf es) := by
  have hgroup (v : Value) : ρ.Spares (groupOf v) := by
    unfold groupOf
    split
    · split
      · split
        · rfl
        · rfl
      · rfl
    · rfl
  induction es with
  | nil => rfl
  | cons e es ih =>
    have hcons : Entries.mapKeys ρ.partKey (e :: es) =
        (ρ.partKey e.1, e.2) :: Entries.mapKeys ρ.partKey es := rfl
    rw [hcons, fieldsOf, fieldsOf, isReserved_partKey]
    split
    · exact ih
    · next hfield =>
      rw [ρ.partKey_of_field (by simpa using hfield), ih]
      exact (hgroup e.2).bind fun group _ => Outcome.mapBoth_bind fun fields _ => rfl

theorem ofValue_rename_part (index : Nat) (v : Value) :
    SubPattern.ofValue index (ρ.part v) =
      Outcome.mapBoth ρ.error ρ.subPattern (SubPattern.ofValue index v) := by
  have hfield {name : String} (hname : isReserved (.text name) = true) (es : Entries Value) :
      Entries.field? name (es.mapKeys ρ.partKey) = Entries.field? name es := by
    have hget := Entries.get?_mapKeys ρ.keepsKeys_partKey (.text name) es
    rwa [ρ.partKey_of_reserved hname] at hget
  cases v with
  | map es =>
    rw [part, SubPattern.ofValue, SubPattern.ofValue, hfield (by decide), hfield (by decide)]
    split
    · next regexp _ =>
      rw [fieldsOf_rename]
      exact (spares_compile index regexp).bind fun _ _ => Outcome.mapBoth_bind fun fields _ => rfl
    · rfl
  | _ => rfl

theorem subPatternsFrom_rename (index : Nat) (items : List Value) :
    subPatternsFrom index (items.map ρ.part) =
      Outcome.mapBoth ρ.error (List.map ρ.subPattern) (subPatternsFrom index items) := by
  induction items generalizing index with
  | nil => rfl
  | cons v items ih =>
    rw [List.map_cons, subPatternsFrom, subPatternsFrom, ofValue_rename_part, ih]
    exact Outcome.mapBoth_bind fun s _ => Outcome.mapBoth_bind fun more _ => rfl

/-- Items that are no maps have no fields. -/
theorem itemsOf_rename (v : Value) :
    itemsOf (ρ.pattern v) = Outcome.mapBoth ρ.error (List.map ρ.part) (itemsOf v) := by
  have hscalars {α : Type} (f : α → Scalar) (xs : List α) :
      (xs.map fun x => Value.scalar (f x)).map ρ.part = xs.map fun x => Value.scalar (f x) := by
    rw [List.map_map]
    rfl
  cases v with
  | list items => rfl
  | pair a b => rfl
  | map es => exact congrArg Except.ok (hscalars Prod.fst es).symm
  | set members => exact congrArg Except.ok (hscalars id members).symm
  | enclosing isMap => rfl
  | scalar s =>
    cases s with
    | text t => exact congrArg Except.ok (hscalars (fun c => .text c.toString) t.toList).symm
    | octets bs => exact congrArg Except.ok (hscalars (fun b => .int b.toNat) bs).symm
    | _ => rfl

section

variable (es : Entries Value)

theorem field?_pattern : Entries.field? "pattern" (es.mapAt (.text "pattern") ρ.pattern) =
    (Entries.field? "pattern" es).map ρ.pattern := by
  rw [Entries.field?, Entries.get?_mapAt, if_pos (Scalar.sameKey_refl _)]
  rfl

theorem field?_of_ne {name : String} (hname : name ≠ "pattern") :
    Entries.field? name (es.mapAt (.text "pattern") ρ.pattern) = Entries.field? name es := by
  rw [Entries.field?, Entries.get?_mapAt, Scalar.sameKey_text, if_neg (by simpa using hname)]
  rfl

theorem ofValue_rename (v : Value) :
    Description.ofValue (ρ.matcher v) =
      Outcome.mapBoth ρ.error ρ.description (Description.ofValue v) := by
  have hrequired (es : Entries Value) (name : String) : ρ.Spares (requiredEntry es name) := by
    unfold requiredEntry
    split
    · rfl
    · rfl
  cases v with
  | map es =>
    have howner : requiredEntry (Entries.mapAt (.text "pattern") ρ.pattern es) "owner" =
        requiredEntry es "owner" := by
      rw [requiredEntry, requiredEntry, ρ.field?_of_ne es (by decide)]
    have hpattern : requiredEntry (Entries.mapAt (.text "pattern") ρ.pattern es) "pattern" =
        Outcome.mapBoth ρ.error ρ.pattern (requiredEntry es "pattern") := by
      rw [requiredEntry, requiredEntry, field?_pattern]
      cases Entries.field? "pattern" es with
      | none => rfl
      | some given => rfl
    rw [matcher, Description.ofValue, Description.ofValue, entriesOf, entriesOf, Outcome.ok_bind,
      Outcome.ok_bind, howner, hpattern, ρ.field?_of_ne es (by decide)]
    refine (hrequired es "owner").bind fun owner _ => Outcome.mapBoth_bind fun given _ => ?_
    rw [itemsOf_rename]
    refine Outcome.mapBoth_bind fun items _ => ?_
    rw [subPatternsFrom_rename]
    exact Outcome.mapBoth_bind fun pattern _ => rfl
  | _ => rfl

end

/-! ## Runs -/

theorem validate_rename (v : Value) :
    (Source.value (ρ.matcher v)).validate = (Source.value v).validate := by
  cases v with
  | map es =>
    have howner : (Source.value (ρ.matcher (.map es))).owner = (Source.value (.map es)).owner := by
      rw [matcher, Source.owner, Source.owner, ρ.field?_of_ne es (by decide)]
    have hcount : (Source.value (ρ.matcher (.map es))).patternCount? =
        (Source.value (.map es)).patternCount? := by
      rw [matcher, Source.patternCount?, Source.patternCount?, field?_pattern]
      cases Entries.field? "pattern" es with
      | none => rfl
      | some given =>
        cases given with
        | list items => exact congrArg (fun n => some (some n)) (List.length_map _)
        | _ => rfl
    rw [matcher] at howner hcount ⊢
    simp only [Source.validate, howner, hcount]
  | _ => rfl

theorem spares_validate (source : Source) : ρ.Spares source.validate := by
  unfold Source.validate
  split
  · rfl
  · split
    · rfl
    · split
      · rfl
      · rfl
      · rfl
      · rfl

theorem spares_validateInput (input : Value) : ρ.Spares (validateInput input) := by
  unfold validateInput
  split
  · rfl
  · split
    · rfl
    · rfl
  · rfl

/-- A job with other names for the fields. -/
def job (j : Job) : Job := { j with description := ρ.description j.description }

theorem prepare_rename (v input : Value) :
    Job.prepare (.value (ρ.matcher v)) input =
      Outcome.mapBoth ρ.error ρ.job (Job.prepare (.value v) input) := by
  have hdescribe : (Source.value (ρ.matcher v)).describe =
      Outcome.mapBoth ρ.error ρ.description (Source.value v).describe := ρ.ofValue_rename v
  rw [Job.prepare, Job.prepare, validate_rename, hdescribe]
  refine (ρ.spares_validate _).bind fun _ _ => (ρ.spares_validateInput input).bind fun text _ =>
    Outcome.mapBoth_bind fun d _ => ?_
  rw [mode_rename]
  exact (spares_mode d).bind fun mode _ => rfl

end Renaming

/-- **Names of fields do not matter.** A matcher with other names for its fields finds what the
matcher itself finds, with these names in the records, or it fails with the same error, with the
other name of the field if the error is about one. -/
theorem sift_rename (ρ : Renaming) (v input : Value) :
    sift (.value (ρ.matcher v)) input =
      Outcome.mapBoth ρ.error (List.map ρ.entries) (sift (.value v) input) := by
  rw [sift, sift, ρ.prepare_rename]
  exact Outcome.mapBoth_bind fun job _ => ρ.records_rename job.description job.mode job.text

/-- Two fields that have each the name of the other. -/
def Renaming.exchange (a b : String) (h : ∀ s ∈ ["severity", "regexp", "loop"], a ≠ s ∧ b ≠ s) :
    Renaming where
  name := Equiv.swap a b
  injective := (Equiv.swap a b).injective
  severity := by
    obtain ⟨ha, hb⟩ := h "severity" (by simp)
    exact Equiv.swap_apply_of_ne_of_ne ha.symm hb.symm
  free s hregexp hloop := by
    obtain ⟨⟨ha, hb⟩, ha', hb'⟩ : (a ≠ "regexp" ∧ b ≠ "regexp") ∧ a ≠ "loop" ∧ b ≠ "loop" :=
      ⟨h _ (by simp), h _ (by simp)⟩
    rw [Equiv.swap_apply_def]
    split
    · exact ⟨hb, hb'⟩
    · split
      · exact ⟨ha, ha'⟩
      · exact ⟨hregexp, hloop⟩

/-- The matcher of reports with the names of its two fields exchanged. -/
theorem sift_rename_reportValue :
    sift (.value ((Renaming.exchange "file" "message" (by decide)).matcher reportValue))
        (.text "= a.c\n- x") =
      .ok [[(.text "message", .text "a.c"), (.text "file", .text "x")]] := by
  have hsift : sift (.value reportValue) (.text "= a.c\n- x") =
      .ok [[(.text "file", .text "a.c"), (.text "message", .text "x")]] := by decide +kernel
  rw [sift_rename, hsift]
  rfl

end LogSift.Matcher
