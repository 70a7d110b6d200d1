import LogSift.Regex.Basic
import LogSift.Text.Ansi
import LogSift.Proofs.Regex.MatchEnd

/-!
# Escape sequences

What follows the escape character in an escape sequence is a body (`IsBody`). The classes of
characters that parameters, intermediate characters and final characters come from have nothing in
common, so no text begins with two different bodies, and the expression for escape sequences finds
the one there is without going back.

* `ofText_sequence`: the expression in writing.
* `sequenceLength?_eq_some_iff`: the reader counts the characters of a body.
* `IsBody.unique`: a text begins with at most one body.
* `sequenceLength?_append`: a character that is not printable ends the text for the reader.
* `matchLength?_sequence`: the expression matches what the reader finds.
* `matchLength?_eq_some_iff`: it matches an escape character with a body.
-/

namespace LogSift.Text.Ansi

open Regex

/-- The expression for escape sequences is this one in writing. -/
theorem ofText_sequence :
    ((Regex.ofText "\\x1B(?:[@-Z\\\\-_]|\\[[0-?]*[ -/]*[@-~])").toOption.map Regex.node) =
      some sequence := by
  decide +kernel

/-! ## Characters -/

/-- The characters that a body is made of. -/
def printable : CharTest := ranges [(0x20, 0x7E)]

theorem holds_ranges (pairs : List (Nat × Nat)) (c : Char) :
    (ranges pairs).holds c = pairs.any fun p => p.1 ≤ c.toNat && c.toNat ≤ p.2 := by
  simp only [CharTest.holds, ranges, Fold.apply, List.any_map, Bool.bne_false]
  rfl

theorem holds_only (c x : Char) : (only c).holds x = decide (x = c) := by
  simp [CharTest.holds, only, Fold.apply, Accepted.holds, Bool.beq_eq_decide_eq, Char.toNat_inj]

theorem holds_single_iff {c : Char} : single.holds c = true ↔
    0x40 ≤ c.toNat ∧ c.toNat ≤ 0x5A ∨ 0x5C ≤ c.toNat ∧ c.toNat ≤ 0x5F := by
  simp [single, holds_ranges]

theorem holds_parameter_iff {c : Char} :
    parameter.holds c = true ↔ 0x30 ≤ c.toNat ∧ c.toNat ≤ 0x3F := by
  simp [parameter, holds_ranges]

theorem holds_intermediate_iff {c : Char} :
    intermediate.holds c = true ↔ 0x20 ≤ c.toNat ∧ c.toNat ≤ 0x2F := by
  simp [intermediate, holds_ranges]

theorem holds_final_iff {c : Char} : final.holds c = true ↔ 0x40 ≤ c.toNat ∧ c.toNat ≤ 0x7E := by
  simp [final, holds_ranges]

theorem holds_printable_iff {c : Char} :
    printable.holds c = true ↔ 0x20 ≤ c.toNat ∧ c.toNat ≤ 0x7E := by
  simp [printable, holds_ranges]

theorem printable_escape : printable.holds escape = false := by decide

theorem printable_newline : printable.holds '\n' = false := by decide

/-- Whether no character passes both tests. -/
def AreDisjoint (x y : CharTest) : Prop := ∀ c, x.holds c = true → y.holds c = false

theorem AreDisjoint.symm {x y : CharTest} (h : AreDisjoint x y) : AreDisjoint y x := by
  intro c hy
  rw [← Bool.not_eq_true]
  intro hx
  cases hy.symm.trans (h c hx)

theorem parameter_intermediate : AreDisjoint parameter intermediate := by
  intro c h
  rw [holds_parameter_iff] at h
  rw [← Bool.not_eq_true, holds_intermediate_iff]
  omega

theorem parameter_final : AreDisjoint parameter final := by
  intro c h
  rw [holds_parameter_iff] at h
  rw [← Bool.not_eq_true, holds_final_iff]
  omega

theorem intermediate_final : AreDisjoint intermediate final := by
  intro c h
  rw [holds_intermediate_iff] at h
  rw [← Bool.not_eq_true, holds_final_iff]
  omega

/-! ## Bodies -/

/-- Whether a text is what follows the escape character in an escape sequence. -/
inductive IsBody : List Char → Prop
  | single {c : Char} : single.holds c = true → IsBody [c]
  | control {parameters intermediates : List Char} {c : Char} :
    (∀ x ∈ parameters, parameter.holds x = true) →
    (∀ x ∈ intermediates, intermediate.holds x = true) → final.holds c = true →
    IsBody ('[' :: (parameters ++ (intermediates ++ [c])))

theorem IsBody.ne_nil {body : List Char} (h : IsBody body) : body ≠ [] := by
  cases h with
  | single => simp
  | control => simp

theorem IsBody.printable {body : List Char} (h : IsBody body) :
    ∀ x ∈ body, printable.holds x = true := by
  intro x hx
  rw [holds_printable_iff]
  cases h with
  | single hc =>
    rw [List.mem_singleton.1 hx]
    have := holds_single_iff.1 hc
    omega
  | control hparameters hintermediates hc =>
    simp only [List.mem_cons, List.mem_append, List.not_mem_nil, or_false] at hx
    rcases hx with rfl | hx | hx | rfl
    · decide
    · have := holds_parameter_iff.1 (hparameters x hx)
      omega
    · have := holds_intermediate_iff.1 (hintermediates x hx)
      omega
    · have := holds_final_iff.1 hc
      omega

theorem IsBody.escape_not_mem {body : List Char} (h : IsBody body) : escape ∉ body := fun hmem => by
  cases (h.printable escape hmem).symm.trans printable_escape

/-! ## The reader -/

theorem takeWhile_eq_self {p : Char → Bool} {run rest : List Char} (hrun : ∀ x ∈ run, p x = true)
    (hrest : ∀ x ∈ rest.head?, p x = false) : (run ++ rest).takeWhile p = run := by
  rw [List.takeWhile_append_of_pos hrun]
  cases rest with
  | nil => simp
  | cons x rest => simp [hrest x rfl]

theorem dropWhile_eq_rest {p : Char → Bool} {run rest : List Char} (hrun : ∀ x ∈ run, p x = true)
    (hrest : ∀ x ∈ rest.head?, p x = false) : (run ++ rest).dropWhile p = rest := by
  rw [List.dropWhile_append_of_pos hrun]
  cases rest with
  | nil => rfl
  | cons x rest => simp [hrest x rfl]

/-- The reader finds the control sequence that a text begins with. -/
theorem controlLength?_append {parameters intermediates : List Char} {c : Char}
    (hparameters : ∀ x ∈ parameters, parameter.holds x = true)
    (hintermediates : ∀ x ∈ intermediates, intermediate.holds x = true)
    (hc : final.holds c = true) (rest : List Char) :
    controlLength? (parameters ++ (intermediates ++ c :: rest)) =
      some (parameters.length + intermediates.length + 1) := by
  have hfirst : ∀ x ∈ (intermediates ++ c :: rest).head?, parameter.holds x = false := by
    intro x hx
    cases intermediates with
    | nil =>
      cases hx
      exact parameter_final.symm c hc
    | cons y intermediates =>
      cases hx
      exact parameter_intermediate.symm x (hintermediates x List.mem_cons_self)
  have hsecond : ∀ x ∈ (c :: rest).head?, intermediate.holds x = false := by
    intro x hx
    cases hx
    exact intermediate_final.symm c hc
  simp only [controlLength?, takeWhile_eq_self hparameters hfirst,
    dropWhile_eq_rest hparameters hfirst, takeWhile_eq_self hintermediates hsecond,
    dropWhile_eq_rest hintermediates hsecond, hc, if_true]

/-- What the reader finds is the control sequence that a text begins with. -/
theorem exists_of_controlLength? {s : List Char} {n : Nat} (h : controlLength? s = some n) :
    ∃ parameters intermediates c rest, s = parameters ++ (intermediates ++ c :: rest) ∧
      (∀ x ∈ parameters, parameter.holds x = true) ∧
      (∀ x ∈ intermediates, intermediate.holds x = true) ∧ final.holds c = true ∧
      n = parameters.length + intermediates.length + 1 := by
  unfold controlLength? at h
  dsimp only at h
  split at h
  · next c rest hrest =>
    split at h
    · next hc =>
      cases h
      refine ⟨_, _, c, rest, ?_, List.all_eq_true.1 List.all_takeWhile,
        List.all_eq_true.1 List.all_takeWhile, hc, rfl⟩
      rw [← hrest, List.takeWhile_append_dropWhile, List.takeWhile_append_dropWhile]
    · cases h
  · cases h

theorem sequenceLength?_single {c : Char} (hc : single.holds c = true) (rest : List Char) :
    sequenceLength? (c :: rest) = some 1 := by
  unfold sequenceLength?
  split
  · next heq =>
    cases heq
    exact absurd hc (by decide)
  · next heq =>
    cases heq
    rw [if_pos hc]
  · next heq => cases heq

/-- The reader counts the characters of the body that a text begins with. -/
theorem sequenceLength?_eq_some_iff {s : List Char} {n : Nat} : sequenceLength? s = some n ↔
    ∃ body rest, s = body ++ rest ∧ IsBody body ∧ body.length = n := by
  constructor
  · intro h
    unfold sequenceLength? at h
    split at h
    · next rest =>
      obtain ⟨m, hm, rfl⟩ := Option.map_eq_some_iff.1 h
      obtain ⟨parameters, intermediates, c, rest, rfl, hp, hi, hc, rfl⟩ :=
        exists_of_controlLength? hm
      exact ⟨_, rest, by simp, .control hp hi hc, by simp [Nat.add_assoc]⟩
    · next c rest _ =>
      split at h
      · next hc =>
        cases h
        exact ⟨[c], rest, rfl, .single hc, rfl⟩
      · cases h
    · cases h
  · rintro ⟨body, rest, rfl, hbody, rfl⟩
    cases hbody with
    | single hc => exact sequenceLength?_single hc rest
    | control hp hi hc =>
      have hlength := controlLength?_append hp hi hc rest
      simp [sequenceLength?, hlength, Nat.add_assoc]

theorem sequenceLength?_body {body : List Char} (h : IsBody body) (rest : List Char) :
    sequenceLength? (body ++ rest) = some body.length :=
  sequenceLength?_eq_some_iff.2 ⟨body, rest, rfl, h, rfl⟩

/-- A text begins with at most one body. -/
theorem IsBody.unique {body body' rest rest' : List Char} (h : IsBody body) (h' : IsBody body')
    (heq : body ++ rest = body' ++ rest') : body = body' := by
  have hlength : body.length = body'.length := Option.some.inj <|
    calc some body.length
      _ = sequenceLength? (body ++ rest) := (sequenceLength?_body h rest).symm
      _ = sequenceLength? (body' ++ rest') := by rw [heq]
      _ = some body'.length := sequenceLength?_body h' rest'
  exact List.append_inj_left heq hlength

/-- A character that is not printable ends the text for the reader. -/
theorem sequenceLength?_append {c : Char} (hc : printable.holds c = false) (s rest : List Char) :
    sequenceLength? (s ++ c :: rest) = sequenceLength? s := by
  refine Option.ext fun n => ?_
  rw [sequenceLength?_eq_some_iff, sequenceLength?_eq_some_iff]
  constructor
  · rintro ⟨body, more, heq, hbody, hlength⟩
    rcases List.append_eq_append_iff.1 heq with ⟨tail, rfl, htail⟩ | ⟨tail, rfl, -⟩
    · -- A body that goes beyond the text has the character in it.
      cases tail with
      | nil => exact ⟨s ++ [], [], by simp, hbody, hlength⟩
      | cons x tail =>
        obtain ⟨rfl, -⟩ := List.cons.inj htail
        cases (hbody.printable c (by simp)).symm.trans hc
    · exact ⟨body, tail, rfl, hbody, hlength⟩
  · rintro ⟨body, more, rfl, hbody, hlength⟩
    exact ⟨body, more ++ c :: rest, by simp, hbody, hlength⟩

/-! ## The expression -/

/-- Where a control sequence ends that begins with a bracket at a place. -/
def controlEnd? (c : Cursor) : Option Cursor :=
  (c.step? (only '[')).bind fun d =>
    ((d.skip parameter.holds none).skip intermediate.holds none).step? final

theorem step?_of_disjoint {x y : CharTest} (h : AreDisjoint x y) {c : Cursor}
    (hc : c.sees x = true) : c.step? y = none := by
  obtain ⟨before, after, offset⟩ := c
  cases after with
  | nil => rfl
  | cons z after => simp [Cursor.step?, h z (by simpa [Cursor.sees] using hc)]

theorem skip_of_disjoint {x y : CharTest} (h : AreDisjoint x y) {c : Cursor}
    (hc : c.sees x = true) : c.skip y.holds none = c := by
  obtain ⟨before, after, offset⟩ := c
  rw [Cursor.skip_none]
  cases after with
  | nil => rfl
  | cons z after => simp [h z (by simpa [Cursor.sees] using hc)]

theorem endsAs_control :
    Continuation.EndsAs (fun c t => control.run false c t .stop) controlEnd? := by
  have hfinal := endsAs_test false final endsAs_stop
  have hintermediates := endsAs_span false (x := intermediate) hfinal fun c hc => by
    rw [step?_of_disjoint intermediate_final hc]
    rfl
  have hparameters := endsAs_span false (x := parameter) hintermediates fun c hc => by
    rw [skip_of_disjoint parameter_intermediate hc, step?_of_disjoint parameter_final hc]
    rfl
  have hbracket := endsAs_test false (only '[') hparameters
  intro c t
  refine (hbracket c t).trans ?_
  simp [controlEnd?]

/-- Where a body ends that begins at a place. -/
def bodyEnd? (c : Cursor) : Option Cursor :=
  let second := if c.sees (only '[') then controlEnd? c else none
  if c.sees single then (c.step? single).or second else second

theorem endsAs_sequence :
    Continuation.EndsAs (fun c t => sequence.run false c t .stop) fun c =>
      (c.step? (only escape)).bind bodyEnd? := by
  have hsecond := endsAs_alt (some (only '[')) endsAs_control (endsAs_never false)
  have hfirst := endsAs_alt (some single) (endsAs_test false single endsAs_stop) hsecond
  intro c t
  refine (endsAs_test false (only escape) hfirst c t).trans
    (congrArg (Option.bind (c.step? (only escape))) (funext fun d => ?_))
  simp [bodyEnd?]

theorem offset_controlEnd? (before rest : List Char) (offset : Nat) :
    (controlEnd? ⟨before, '[' :: rest, offset⟩).map Cursor.offset =
      (controlLength? rest).map (offset + 1 + ·) := by
  have hbracket : Cursor.step? (only '[') ⟨before, '[' :: rest, offset⟩ =
      some ⟨'[' :: before, rest, offset + 1⟩ := by
    simp [Cursor.step?, holds_only]
  rw [controlEnd?, hbracket, Option.bind_some, Cursor.skip_none, Cursor.skip_none]
  simp only [Cursor.step?, controlLength?]
  cases (rest.dropWhile parameter.holds).dropWhile intermediate.holds with
  | nil => rfl
  | cons c tail =>
    by_cases hc : final.holds c = true
    · simp [hc, Nat.add_assoc]
    · simp [hc]

theorem offset_bodyEnd? (before after : List Char) (offset : Nat) :
    (bodyEnd? ⟨before, after, offset⟩).map Cursor.offset =
      (sequenceLength? after).map (offset + ·) := by
  unfold sequenceLength?
  split
  · next rest =>
    have hsingle : single.holds '[' = false := by decide
    simp [bodyEnd?, Cursor.sees, holds_only, hsingle, offset_controlEnd?, Function.comp_def,
      Nat.add_assoc, Nat.add_comm 1]
  · next c rest hbracket =>
    have hne : c ≠ '[' := hbracket
    by_cases hc : single.holds c = true
    · simp [bodyEnd?, Cursor.sees, Cursor.step?, hc, holds_only, hne]
    · simp [bodyEnd?, Cursor.sees, hc, holds_only, hne]
  · rfl

/-- The expression matches what the reader finds. -/
theorem matchLength?_sequence (before rest : List Char) (offset : Nat) (c : Char) :
    matchLength? sequence ⟨before, c :: rest, offset⟩ =
      if c = escape then (sequenceLength? rest).map (· + 1) else none := by
  rw [matchLength?_of_endsAs endsAs_sequence]
  by_cases hc : c = escape
  · have hstep : Cursor.step? (only escape) ⟨before, c :: rest, offset⟩ =
        some ⟨c :: before, rest, offset + 1⟩ := by
      simp [Cursor.step?, holds_only, hc]
    have hlength : ∀ n, offset + 1 + n - offset = n + 1 := by omega
    rw [if_pos hc, hstep, Option.bind_some]
    calc (bodyEnd? ⟨c :: before, rest, offset + 1⟩).map (fun d => d.offset - offset)
      _ = ((bodyEnd? ⟨c :: before, rest, offset + 1⟩).map Cursor.offset).map (· - offset) := by
        rw [Option.map_map]
        rfl
      _ = (sequenceLength? rest).map (· + 1) := by
        rw [offset_bodyEnd?, Option.map_map]
        exact congrArg (Option.map · _) (funext hlength)
  · simp [Cursor.step?, holds_only, hc]

/-- The expression matches an escape character with a body. -/
theorem matchLength?_eq_some_iff {c : Cursor} {n : Nat} : matchLength? sequence c = some n ↔
    ∃ body rest, c.after = escape :: (body ++ rest) ∧ IsBody body ∧ n = body.length + 1 := by
  obtain ⟨before, after, offset⟩ := c
  cases after with
  | nil =>
    rw [matchLength?_of_endsAs endsAs_sequence]
    simp [Cursor.step?]
  | cons x after =>
    rw [matchLength?_sequence]
    constructor
    · intro h
      split at h
      · next hx =>
        obtain ⟨m, hm, rfl⟩ := Option.map_eq_some_iff.1 h
        obtain ⟨body, rest, rfl, hbody, rfl⟩ := sequenceLength?_eq_some_iff.1 hm
        exact ⟨body, rest, by rw [hx], hbody, rfl⟩
      · cases h
    · rintro ⟨body, rest, heq, hbody, rfl⟩
      obtain ⟨rfl, rfl⟩ := List.cons.inj heq
      rw [if_pos rfl, sequenceLength?_body hbody]
      rfl

end LogSift.Text.Ansi
