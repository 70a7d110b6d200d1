import LogSift.Proofs.Matcher.Stages

/-!
# Sifters that have been built

On every input a sifter checks its description, chooses the mode and prepares the expressions once
more. After it has been built from a JSON value nothing of this can fail (`Sifter.IsReady`).

* `Sifter.isReady_of_ofSource`: a sifter is built with everything that a run needs.
* `Sifter.sift_of_isReady`: a run of such a sifter is the check of the input and the records of its
  lines.
* `sifter_ready`: on what is no text a sifter fails because of the input, and on a text it gives
  records, or a line of the text is at fault.
-/

namespace LogSift.Matcher

/-- Whether an input is a text and not the empty one. -/
def IsText (input : Value) : Prop := ∃ text, text ≠ "" ∧ input = .text text

/-- What is no text, and the empty one, is refused as input. -/
theorem validateInput_of_not_isText {input : Value} (h : ¬ IsText input) :
    ∃ e, validateInput input = .error e ∧ e.family = .input := by
  refine exists_validateInput_eq_error fun text htext => ?_
  by_contra hne
  exact h ⟨text, hne, htext⟩

/-- The errors of lines are not about the input. -/
theorem family_of_isLineFault {pattern : List SubPattern} {text : String} {e : Error}
    (h : IsLineFault pattern text e) : e.family ≠ .input := by
  obtain ⟨s, -, regex, -, line, -, m, -, hfault⟩ := h
  cases hfault with
  | broken => simp [Error.family]
  | whole => simp [Error.family]
  | missing => simp [Error.family]

namespace Sifter

variable {s : Sifter}

/-- Whether the description of a sifter passes the checks, has a mode, and has sub-patterns that are
built. -/
structure IsReady (s : Sifter) : Prop where
  valid : (Source.description s.description).validate = .ok ()
  mode : ∃ mode, s.description.mode = .ok mode
  built : ∀ part ∈ s.description.pattern, part.IsBuilt

theorem isReady_of_ofSource {v : Value} (hjson : v.isJson = true)
    (h : Sifter.ofSource (.value v) = .ok s) : s.IsReady := by
  obtain ⟨hvalid, hdescribe, mode, hmode⟩ := Sifter.ofSource_eq_ok h
  have hbuild : Description.ofValue v = .ok s.description := hdescribe
  exact ⟨validate_description hvalid hbuild hmode, ⟨mode, hmode⟩, isBuilt_of_ofValue hjson hbuild⟩

/-- Of a run only the input and the lines are left to look at. -/
theorem sift_of_isReady (h : s.IsReady) :
    ∃ mode, s.description.mode = .ok mode ∧
      ∀ input, s.sift input = validateInput input >>= s.description.records mode := by
  obtain ⟨mode, hmode⟩ := h.mode
  exact ⟨mode, hmode, fun input => sift_of_ready h.valid rfl hmode input⟩

theorem sift_of_not_isText (h : s.IsReady) {input : Value} (hinput : ¬ IsText input) :
    ∃ e, s.sift input = .error e ∧ e.family = .input := by
  obtain ⟨mode, -, hsift⟩ := sift_of_isReady h
  obtain ⟨e, he, hfamily⟩ := validateInput_of_not_isText hinput
  exact ⟨e, by rw [hsift, he, Outcome.error_bind], hfamily⟩

/-- On a text the expressions are well-formed and the mode is one that can be run, so an error is
that of a line. -/
theorem sift_text_cases (h : s.IsReady) {text : String} (ht : text ≠ "") :
    (∃ records, s.sift (.text text) = .ok records) ∨
      ∃ e, s.sift (.text text) = .error e ∧ IsLineFault s.description.pattern text e := by
  obtain ⟨mode, hmode, hsift⟩ := sift_of_isReady h
  have hrun : s.sift (.text text) = s.description.records mode text := by
    rw [hsift, validateInput_text ht, Outcome.ok_bind]
  cases hrecords : s.description.records mode text with
  | ok records => exact .inl ⟨records, hrun.trans hrecords⟩
  | error e => exact .inr ⟨e, hrun.trans hrecords, isLineFault_of_records h.built hmode hrecords⟩

end Sifter

/-- **A sifter is ready to run.** One that has been built from a JSON value fails because of the
input just if this is not a text or is the empty one. On another text it gives records, or it fails
because a sub-pattern of its description matches a line and the match is at fault: a field that the
sub-pattern declares asks for a group that it cannot have, or a group begins behind its end. -/
theorem sifter_ready {v : Value} {s : Sifter} (hjson : v.isJson = true)
    (h : Sifter.ofSource (.value v) = .ok s) (input : Value) :
    ((∃ e, s.sift input = .error e ∧ e.family = .input) ↔ ¬ IsText input) ∧
      (IsText input → (∃ records, s.sift input = .ok records) ∨
        ∃ text e, input = .text text ∧ s.sift input = .error e ∧
          IsLineFault s.description.pattern text e) := by
  have hready := Sifter.isReady_of_ofSource hjson h
  have htext : IsText input → (∃ records, s.sift input = .ok records) ∨
      ∃ text e, input = .text text ∧ s.sift input = .error e ∧
        IsLineFault s.description.pattern text e := by
    rintro ⟨text, ht, rfl⟩
    rcases Sifter.sift_text_cases hready ht with hrecords | ⟨e, he, hfault⟩
    · exact .inl hrecords
    · exact .inr ⟨text, e, rfl, he, hfault⟩
  refine ⟨⟨?_, fun hinput => Sifter.sift_of_not_isText hready hinput⟩, htext⟩
  rintro ⟨e, he, hfamily⟩ hinput
  rcases htext hinput with ⟨records, hrecords⟩ | ⟨text, e', -, he', hfault⟩
  · cases he.symm.trans hrecords
  · cases he.symm.trans he'
    exact family_of_isLineFault hfault hfamily

/-- A matcher with a field that asks for the whole match. -/
def wholeMatch : Value :=
  .map [(.text "owner", .text "o"),
    (.text "pattern", .list [.map [(.text "regexp", .text "(x)"), (.text "line", .int 0)]])]

/-- The sifter is built although the field cannot be read, refuses null as input, and fails on the
first line that matches. -/
theorem sifter_ready_wholeMatch : ∃ s, Sifter.ofSource (.value wholeMatch) = .ok s ∧
    (∃ e, s.sift .null = .error e ∧ e.family = .input) ∧
    ∃ text e, Value.text "a\nx" = .text text ∧ s.sift (.text "a\nx") = .error e ∧
      IsLineFault s.description.pattern text e := by
  have hjson : wholeMatch.isJson = true := by decide +kernel
  have hs : Sifter.ofSource (.value wholeMatch) =
      .ok ⟨.text "o", [⟨"(x)", [(.text "line", .int 0)], false⟩], .null⟩ := by decide +kernel
  have hnull : ¬ IsText .null := by
    rintro ⟨text, -, h⟩
    cases h
  have htext : IsText (.text "a\nx") := ⟨"a\nx", by decide, rfl⟩
  refine ⟨_, hs, (sifter_ready hjson hs .null).1.2 hnull, ?_⟩
  rcases (sifter_ready hjson hs (.text "a\nx")).2 htext with ⟨records, hrecords⟩ | hfault
  · have herror : Sifter.sift ⟨.text "o", [⟨"(x)", [(.text "line", .int 0)], false⟩], .null⟩
        (.text "a\nx") = .error .groupZero := by decide +kernel
    cases hrecords.symm.trans herror
  · exact hfault

/-- A sifter that has been built can fail on a text with an error that is neither about the input
nor about a field: here no field is declared. -/
theorem sifter_backwardGroup : backwardGroup.isJson = true ∧
    ∃ s, Sifter.ofSource (.value backwardGroup) = .ok s ∧
      (∀ part ∈ s.description.pattern, part.fields = []) ∧
      ∃ e, s.sift (.text "xyz") = .error e ∧ e.family ≠ .input ∧ e ≠ .groupZero ∧
        ∀ group name, e ≠ .noGroup group name := by
  refine ⟨by decide +kernel,
    ⟨.text "o", [⟨"((x)|y|z)*+", [], false⟩], .null⟩, by decide +kernel, ?_,
    .brokenMatch, by decide +kernel, by simp [Error.family], by simp, by simp⟩
  simp

end LogSift.Matcher
