import LogSift.Proofs.Matcher.Faults

/-!
# The stages of a run

A run checks the matcher, then the input, then builds the sub-patterns one after the other, then
chooses the mode, and only then looks at lines. Each stage has errors of its own, and none of them
depends on what a later stage would find.

* `sift_ways`: it does not matter whether a matcher is run as a value, as a description or as a
  sifter.
* `subPatternsFrom_eq_error_iff`: of several sub-patterns that cannot be built the first decides.
* `exists_mode_iff`: the shapes that can be run.
* `isLineFault_of_records`: what is left to go wrong on a line.
* `sift_staged`: all stages of a matcher that is given as a JSON value.
-/

namespace LogSift.Matcher

/-! ## Checks -/

theorem sift_of_not_valid {source : Source} {e : Error} (h : source.validate = .error e)
    (input : Value) : sift source input = .error e := by
  simp [sift, Job.prepare, h]

theorem sift_of_no_text {source : Source} {input : Value} {e : Error}
    (hvalid : source.validate = .ok ()) (h : validateInput input = .error e) :
    sift source input = .error e := by
  simp [sift, Job.prepare, hvalid, h]

/-- An input that is not a text, or is the empty one, is an error about the input. -/
theorem exists_validateInput_eq_error {input : Value}
    (h : ∀ text, input = .text text → text = "") :
    ∃ e, validateInput input = .error e ∧ e.family = .input := by
  unfold validateInput
  split
  · exact ⟨_, rfl, rfl⟩
  · next s =>
    rw [h s rfl]
    exact ⟨_, rfl, rfl⟩
  · exact ⟨_, rfl, rfl⟩

/-! ## Three ways to run a matcher -/

/-- What a sifter has been built from. -/
theorem Sifter.ofSource_eq_ok {source : Source} {s : Sifter}
    (h : Sifter.ofSource source = .ok s) :
    source.validate = .ok () ∧ source.describe = .ok s.description ∧
      ∃ mode, s.description.mode = .ok mode := by
  obtain ⟨⟨⟩, hvalid, h⟩ := Outcome.bind_eq_ok.1 h
  obtain ⟨d, hdescribe, h⟩ := Outcome.bind_eq_ok.1 h
  obtain ⟨mode, hmode, h⟩ := Outcome.bind_eq_ok.1 h
  cases h
  exact ⟨hvalid, hdescribe, mode, hmode⟩

/-- A matcher that no sifter is built from fails on every text, with the same error. -/
theorem sift_of_no_sifter {source : Source} {e : Error} (h : Sifter.ofSource source = .error e)
    {text : String} (ht : text ≠ "") : sift source (.text text) = .error e := by
  rw [sift_text source ht]
  rcases Outcome.bind_eq_error.1 h with hvalid | ⟨⟨⟩, hvalid, h⟩
  · rw [hvalid]
    rfl
  rw [hvalid, Outcome.ok_bind]
  rcases Outcome.bind_eq_error.1 h with hdescribe | ⟨d, hdescribe, h⟩
  · rw [hdescribe]
    rfl
  rw [hdescribe, Outcome.ok_bind]
  rcases Outcome.bind_eq_error.1 h with hmode | ⟨mode, -, h⟩
  · rw [hmode]
    rfl
  · cases h

/-- **Three ways to run a matcher.** A sifter that is built from a value finds in any inputs, one
after the other, what the value finds in them and what its description finds in them. If no sifter
is built, the value fails on every text with the error of the sifter. -/
theorem sift_ways (v : Value) :
    (∀ s, Sifter.ofSource (.value v) = .ok s →
      ∃ d, Description.ofValue v = .ok d ∧ ∀ inputs : List Value,
        inputs.map s.sift = inputs.map (sift (.value v)) ∧
        inputs.map (sift (.description d)) = inputs.map (sift (.value v))) ∧
    ∀ e, Sifter.ofSource (.value v) = .error e →
      ∀ text, text ≠ "" → sift (.value v) (.text text) = .error e := by
  refine ⟨fun s hs => ?_, fun e he text ht => sift_of_no_sifter he ht⟩
  obtain ⟨hvalid, hdescribe, mode, hmode⟩ := Sifter.ofSource_eq_ok hs
  have hsame : sift (.description s.description) = sift (.value v) := by
    funext input
    rw [sift_of_ready hvalid hdescribe hmode,
      sift_of_ready (validate_description hvalid hdescribe hmode) rfl hmode]
  refine ⟨s.description, hdescribe, fun inputs => ⟨?_, ?_⟩⟩
  · exact congrArg inputs.map hsame
  · rw [hsame]

/-- The matcher of reports on a number, on an empty text and on a report; and one without a list of
sub-patterns on a text. -/
theorem sift_ways_report :
    (∃ s d, Sifter.ofSource (.value reportValue) = .ok s ∧
      Description.ofValue reportValue = .ok d ∧
      [.int 3, .text "", .text "= a.c\n- x"].map s.sift =
        [.int 3, .text "", .text "= a.c\n- x"].map (sift (.value reportValue)) ∧
      [.int 3, .text "", .text "= a.c\n- x"].map (sift (.description d)) =
        [.int 3, .text "", .text "= a.c\n- x"].map (sift (.value reportValue))) ∧
    sift (.value (.map [(.text "owner", .text "o")])) (.text "x") = .error .noPattern := by
  have hs : Sifter.ofSource (.value reportValue) = .ok ⟨report⟩ := by decide +kernel
  obtain ⟨d, hd, hways⟩ := (sift_ways reportValue).1 _ hs
  refine ⟨⟨⟨report⟩, d, hs, hd, hways _⟩, ?_⟩
  exact (sift_ways (.map [(.text "owner", .text "o")])).2 _ (by rfl) "x" (by decide)

/-! ## Building -/

/-- Whether an item is the first of those numbered from an index on that cannot be built, and its
error. -/
def IsFirstUnbuilt (index : Nat) (items : List Value) (i : Nat) (e : Error) : Prop :=
  (∃ item, items[i]? = some item ∧ SubPattern.ofValue (index + i) item = .error e) ∧
    ∀ j item, j < i → items[j]? = some item → ∃ s, SubPattern.ofValue (index + j) item = .ok s

theorem isFirstUnbuilt_zero {index : Nat} {item : Value} {items : List Value} {e : Error} :
    IsFirstUnbuilt index (item :: items) 0 e ↔ SubPattern.ofValue index item = .error e := by
  simp [IsFirstUnbuilt]

theorem isFirstUnbuilt_succ {index i : Nat} {item : Value} {items : List Value} {e : Error} :
    IsFirstUnbuilt index (item :: items) (i + 1) e ↔
      (∃ s, SubPattern.ofValue index item = .ok s) ∧ IsFirstUnbuilt (index + 1) items i e := by
  unfold IsFirstUnbuilt
  rw [and_left_comm, ← Nat.and_forall_add_one]
  simp [← Nat.add_assoc, Nat.add_right_comm index 1]

/-- Sub-patterns cannot be built just if one of them cannot, and the first such decides. -/
theorem subPatternsFrom_eq_error_iff {index : Nat} {items : List Value} {e : Error} :
    subPatternsFrom index items = .error e ↔ ∃ i, IsFirstUnbuilt index items i e := by
  induction items generalizing index with
  | nil => simp [subPatternsFrom, IsFirstUnbuilt]
  | cons item items ih =>
    rw [← Nat.or_exists_add_one, isFirstUnbuilt_zero]
    simp only [isFirstUnbuilt_succ, exists_and_left, ← ih]
    rw [subPatternsFrom, Outcome.bind_eq_error]
    refine or_congr_right ⟨?_, ?_⟩
    · rintro ⟨s, hs, h⟩
      rcases Outcome.bind_eq_error.1 h with h | ⟨more, -, h⟩
      · exact ⟨⟨s, hs⟩, h⟩
      · cases h
    · rintro ⟨⟨s, hs⟩, h⟩
      exact ⟨s, hs, by rw [h]; rfl⟩

/-- Sub-patterns that can all be built are built in their order. -/
theorem exists_built {index i : Nat} {items : List Value} {pattern : List SubPattern} {item : Value}
    (h : subPatternsFrom index items = .ok pattern) (hitem : items[i]? = some item) :
    ∃ s, SubPattern.ofValue i item = .ok s ∧ pattern[i]? = some s := by
  have hgiven := subPatternsFrom_eq_ok_iff.1 h
  obtain ⟨hi, rfl⟩ := List.getElem?_eq_some_iff.1 hitem
  have hi' : i < pattern.length := hgiven.length_eq ▸ hi
  exact ⟨pattern[i], SubPattern.ofValue_eq_ok_iff.2 (hgiven.get hi hi'),
    List.getElem?_eq_getElem hi'⟩

/-- A JSON value that passes the checks has a list of sub-patterns, and building it is building
these. -/
theorem ofValue_of_validate {v : Value} (hjson : v.isJson = true)
    (hvalid : (Source.value v).validate = .ok ()) :
    ∃ entries items owner, v = .map entries ∧
      Entries.field? "pattern" entries = some (.list items) ∧ items ≠ [] ∧
      Description.ofValue v =
        (⟨owner, ·, (Entries.field? "severity" entries).getD .null⟩) <$>
          subPatternsFrom 0 items := by
  obtain ⟨entries, items, rfl, hitems, hne⟩ := exists_items_of_validate hjson hvalid
  obtain ⟨entries', given, items', owner, hentries, hgiven, hitems', -, hbuild⟩ :=
    exists_items_of_valid hvalid
  cases hentries
  cases hitems.symm.trans hgiven
  cases hitems'
  exact ⟨entries, items, owner, rfl, hitems, hne, hbuild⟩

/-! ## Shapes -/

/-- Whether sub-patterns have a shape that can be run: there is one of them, or the last of them
and no other has the loop mark. -/
def IsRunnable (pattern : List SubPattern) : Prop :=
  pattern.length = 1 ∨ ∃ headers loop, pattern = headers ++ [loop] ∧ loop.loop = true ∧
    ∀ s ∈ headers, s.loop = false

theorem exists_mode_iff {d : Description} : (∃ mode, d.mode = .ok mode) ↔ IsRunnable d.pattern := by
  constructor
  · rintro ⟨mode, hmode⟩
    cases mode with
    | single => exact .inl (List.length_eq_one_iff.2 (mode_eq_single_iff.1 hmode))
    | loop =>
      obtain ⟨headers, loop, hpattern, -, hloop, hheaders⟩ := mode_eq_loop_iff.1 hmode
      exact .inr ⟨headers, loop, hpattern, hloop, hheaders⟩
  · rintro (hone | ⟨headers, loop, hpattern, hloop, hheaders⟩)
    · exact ⟨.single, mode_eq_single_iff.2 (List.length_eq_one_iff.1 hone)⟩
    · by_cases hnil : headers = []
      · exact ⟨.single, mode_eq_single_iff.2 ⟨loop, by simp [hpattern, hnil]⟩⟩
      · exact ⟨.loop, mode_eq_loop_iff.2 ⟨headers, loop, hpattern, hnil, hloop, hheaders⟩⟩

/-- A shape that cannot be run has one error. -/
theorem mode_eq_unsupported {d : Description} (h : ¬ IsRunnable d.pattern) :
    d.mode = .error .unsupported := by
  cases hmode : d.mode with
  | ok mode => exact absurd (exists_mode_iff.1 ⟨mode, hmode⟩) h
  | error e =>
    unfold Description.mode at hmode
    split at hmode
    · cases hmode
    · split at hmode
      · cases hmode
      · cases hmode
        rfl

/-! ## Lines -/

/-- How a match of a sub-pattern stops a run: the match itself is at fault, or one of the fields is
not readable in it. -/
inductive IsMatchFault (s : SubPattern) (regex : Regex) (m : Regex.Match) : Error → Prop
  /-- A group begins behind its end. -/
  | broken : m.isSound regex.groupCount = false → IsMatchFault s regex m .brokenMatch
  /-- A field asks for the whole match. -/
  | whole (name : Scalar) : m.isSound regex.groupCount = true → (name, .int 0) ∈ s.fields →
    IsMatchFault s regex m .groupZero
  /-- A field asks for a group that is not there or has matched nothing. -/
  | missing (name : Scalar) (group : Value) : m.isSound regex.groupCount = true →
    (name, group) ∈ s.fields → group ≠ .int 0 → isReadable regex.groupCount m group = false →
    IsMatchFault s regex m (.noGroup group name)

theorem isMatchFault_of_fieldsFault? {s : SubPattern} {regex : Regex} {m : Regex.Match} {e : Error}
    (hsound : m.isSound regex.groupCount = true)
    (h : fieldsFault? regex.groupCount m s.fields = some e) : IsMatchFault s regex m e := by
  obtain ⟨⟨name, group⟩, hfind, rfl⟩ := Option.map_eq_some_iff.1 h
  have hmem := List.mem_of_find?_eq_some hfind
  have hunreadable : isReadable regex.groupCount m group = false := by
    simpa using List.find?_some hfind
  by_cases hzero : group = .int 0
  · subst hzero
    exact .whole name hsound hmem
  · rw [fieldFault_of_ne hzero]
    exact .missing name group hsound hmem hzero hunreadable

/-- How a text stops a run of sub-patterns: one of them matches a line of it, and the match is at
fault. -/
def IsLineFault (pattern : List SubPattern) (text : String) (e : Error) : Prop :=
  ∃ s ∈ pattern, ∃ regex, Regex.ofText s.regexp = .ok regex ∧
    ∃ line ∈ Text.lines text.toList, ∃ m, regex.search line = some m ∧ IsMatchFault s regex m e

theorem isLineFault_of_records {d : Description} {mode : Mode} {text : String} {e : Error}
    (hbuilt : ∀ s ∈ d.pattern, s.IsBuilt) (hmode : d.mode = .ok mode)
    (h : d.records mode text = .error e) : IsLineFault d.pattern text e := by
  obtain ⟨rules, hrules, hshow⟩ := exists_rules_of_isBuilt hbuilt 0
  have hfault := (error?_records hmode hrules hshow text).symm.trans (Outcome.error?_eq_some.2 h)
  obtain ⟨t, ht, hfault⟩ := List.exists_of_findSome?_eq_some hfault
  obtain ⟨rule, hrule, hfault⟩ := Option.bind_eq_some_iff.1 hfault
  obtain ⟨m, hm, hfault⟩ := Option.bind_eq_some_iff.1 hfault
  obtain ⟨s, hs, hregex, hfields⟩ :=
    exists_left_of_forall₂ (rulesFrom_eq_ok.1 hrules) (List.mem_of_getElem? hrule)
  refine ⟨s, hs, _, hregex, t.line, line_mem_of_mem_trials ht, m, hm, ?_⟩
  split at hfault
  · next hsound => exact isMatchFault_of_fieldsFault? hsound (hfields ▸ hfault)
  · next hsound =>
    cases hfault
    exact .broken (Bool.eq_false_iff.2 hsound)

/-! ## All stages -/

/-- **Errors come in stages.** A JSON value that does not pass the checks fails on every input with
the error of the checks. One that passes fails on what is no text with an error about the input.
On texts it fails with the error of its first sub-pattern that cannot be built; if all can be
built, because of its shape; and if it has a shape that can be run, because of a match. -/
theorem sift_staged {v : Value} (hjson : v.isJson = true) :
    (∀ e, (Source.value v).validate = .error e → ∀ input, sift (.value v) input = .error e) ∧
    ((Source.value v).validate = .ok () →
      (∀ input, (∀ text, input = .text text → text = "") →
        ∃ e, sift (.value v) input = .error e ∧ e.family = .input) ∧
      ∃ entries items, v = .map entries ∧
        Entries.field? "pattern" entries = some (.list items) ∧
        ((∃ i e, IsFirstUnbuilt 0 items i e ∧
            ∀ text, text ≠ "" → sift (.value v) (.text text) = .error e) ∨
          ∃ d, Description.ofValue v = .ok d ∧
            (∀ i item, items[i]? = some item →
              ∃ s, SubPattern.ofValue i item = .ok s ∧ d.pattern[i]? = some s) ∧
            (¬ IsRunnable d.pattern ∧
                (∀ text, text ≠ "" → sift (.value v) (.text text) = .error .unsupported) ∨
              IsRunnable d.pattern ∧ ∀ text, text ≠ "" → ∀ e,
                sift (.value v) (.text text) = .error e → IsLineFault d.pattern text e))) := by
  refine ⟨fun e he input => sift_of_not_valid he input, fun hvalid => ⟨fun input hinput => ?_, ?_⟩⟩
  · obtain ⟨e, he, hfamily⟩ := exists_validateInput_eq_error hinput
    exact ⟨e, sift_of_no_text hvalid he, hfamily⟩
  obtain ⟨entries, items, owner, rfl, hitems, -, hbuild⟩ := ofValue_of_validate hjson hvalid
  refine ⟨entries, items, rfl, hitems, ?_⟩
  cases hpattern : subPatternsFrom 0 items with
  | error e =>
    obtain ⟨i, hi⟩ := subPatternsFrom_eq_error_iff.1 hpattern
    refine .inl ⟨i, e, hi, fun text ht => ?_⟩
    have hdescribe : (Source.value (.map entries)).describe = .error e := by
      rw [Source.describe, hbuild, hpattern]
      rfl
    rw [sift_text _ ht, hvalid, hdescribe]
    rfl
  | ok pattern =>
    obtain ⟨d, hd, rfl⟩ : ∃ d, Description.ofValue (.map entries) = .ok d ∧ d.pattern = pattern :=
      ⟨_, by rw [hbuild, hpattern]; rfl, rfl⟩
    refine .inr ⟨d, hd, fun i item hitem => exists_built hpattern hitem, ?_⟩
    by_cases hshape : IsRunnable d.pattern
    · obtain ⟨mode, hmode⟩ := exists_mode_iff.2 hshape
      refine .inr ⟨hshape, fun text ht e he => ?_⟩
      rw [sift_of_ready hvalid hd hmode, validateInput_text ht, Outcome.ok_bind] at he
      exact isLineFault_of_records (isBuilt_of_ofValue hjson hd) hmode he
    · refine .inl ⟨hshape, fun text ht => ?_⟩
      rw [sift_text _ ht, hvalid, Source.describe, hd, Outcome.ok_bind, Outcome.ok_bind,
        mode_eq_unsupported hshape]
      rfl

/-- Two sub-patterns of which the first cannot be built: its expression is no text. -/
def numberedExpression : Value :=
  .map [(.text "owner", .text "o"),
    (.text "pattern", .list [.map [(.text "regexp", .int 1)], .int 2])]

/-- The first of two sub-patterns that cannot be built decides. -/
theorem sift_staged_numberedExpression :
    (∃ e, sift (.value numberedExpression) .null = .error e ∧ e.family = .input) ∧
      ∃ i e, IsFirstUnbuilt 0 [.map [(.text "regexp", .int 1)], .int 2] i e ∧
        ∀ text, text ≠ "" → sift (.value numberedExpression) (.text text) = .error e := by
  have hjson : numberedExpression.isJson = true := by decide +kernel
  obtain ⟨hinput, entries, items, hentries, hitems, h⟩ := (sift_staged hjson).2 (by rfl)
  cases hentries
  cases hitems
  refine ⟨hinput .null (fun _ h => nomatch h), ?_⟩
  rcases h with h | ⟨d, hd, -⟩
  · exact h
  · have : Description.ofValue numberedExpression = .error (.regexpNotText 0) := by decide +kernel
    rw [this] at hd
    cases hd

/-! ## Matches that make no sense -/

/-- A shape that can be run can fail on a text with an error that is not about a group that a field
asks for: here there is no field. -/
theorem sift_backwardGroup :
    backwardGroup.isJson = true ∧ (Source.value backwardGroup).validate = .ok () ∧
      ∃ d, Description.ofValue backwardGroup = .ok d ∧ IsRunnable d.pattern ∧
        (∀ s ∈ d.pattern, s.fields = []) ∧
        ∃ e, sift (.value backwardGroup) (.text "xyz") = .error e ∧
          e ≠ .groupZero ∧ ∀ group name, e ≠ .noGroup group name := by
  refine ⟨by decide, by rfl,
    ⟨.text "o", [⟨"((x)|y|z)*+", [], false⟩], .null⟩, by decide +kernel, .inl rfl, ?_,
    .brokenMatch, by decide +kernel, by simp, by simp⟩
  simp

end LogSift.Matcher
