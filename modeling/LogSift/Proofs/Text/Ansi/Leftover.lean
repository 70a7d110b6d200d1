import Mathlib.Data.List.TFAE
import Mathlib.Tactic.TFAE
import LogSift.Proofs.Text.Ansi.Scan

/-!
# What removing escape sequences leaves behind

Where a sequence is interrupted by others, the pass leaves out the others and brings the parts of
the first one together, which then are a sequence. There is no other way in which a sequence is left
behind.

* `HasSequence`, `scan_eq_self_iff`: texts that the pass changes.
* `Woven`, `IsInterrupted`: sequences that are interrupted by others.
* `hasSequence_scan_iff`: the pass leaves a sequence behind just if there is an interrupted one.
* `strip_leftover`: the same about the expression and about removing twice.
-/

namespace LogSift.Text.Ansi

open Regex

variable {s body kept whole : List Char}

/-! ## Texts with a sequence -/

/-- Whether an escape sequence begins somewhere in a text. -/
def HasSequence (s : List Char) : Prop :=
  ∃ before body after, s = before ++ escape :: (body ++ after) ∧ IsBody body

theorem HasSequence.append_left (h : HasSequence s) (more : List Char) :
    HasSequence (more ++ s) := by
  obtain ⟨before, body, after, rfl, hbody⟩ := h
  exact ⟨more ++ before, body, after, by rw [List.append_assoc], hbody⟩

/-- The pass changes the texts with a sequence. -/
theorem scan_eq_self_iff : scan s = s ↔ ¬ HasSequence s := by
  constructor
  · rintro h ⟨before, body, after, rfl, hbody⟩
    have hlength := congrArg List.length h
    have hbefore := (scan_sublist before).length_le
    have hafter := (scan_sublist after).length_le
    rw [scan_append_cons printable_escape, scan_sequence hbody] at hlength
    simp only [List.length_append, List.length_cons] at hlength
    omega
  · intro h
    induction s using scan_induction with
    | nil => rfl
    | char c s hc ih => rw [scan_cons hc, ih fun hs => h (hs.append_left [c])]
    | sequence body s hbody ih => exact absurd ⟨[], body, s, rfl, hbody⟩ h
    | unfinished s hnone ih => rw [scan_escape hnone, ih fun hs => h (hs.append_left [escape])]

/-- The expression matches nowhere in the texts without a sequence. -/
theorem matchAt?_eq_none_iff :
    (∀ c : Cursor, c.text = s → sequence.matchAt? c = none) ↔ ¬ HasSequence s := by
  have hmatch : ∀ c : Cursor, sequence.matchAt? c = none ↔ matchLength? sequence c = none := by
    intro c
    rw [matchLength?, Option.map_eq_none_iff]
  simp only [hmatch]
  constructor
  · rintro h ⟨before, body, after, rfl, hbody⟩
    have hnone := h ⟨before.reverse, escape :: (body ++ after), 0⟩ (by simp [Cursor.text])
    cases hnone.symm.trans (matchLength?_eq_some_iff.2 ⟨body, after, rfl, hbody, rfl⟩)
  · rintro h c rfl
    rw [Option.eq_none_iff_forall_ne_some]
    intro n hn
    obtain ⟨body, rest, hafter, hbody, -⟩ := matchLength?_eq_some_iff.1 hn
    exact h ⟨c.before.reverse, body, rest, by rw [Cursor.text, hafter], hbody⟩

/-! ## Interrupted sequences -/

/-- Whether the second text is the first with escape sequences put in before some of its
characters. -/
inductive Woven : List Char → List Char → Prop
  | nil : Woven [] []
  | keep {c : Char} {kept whole : List Char} : Woven kept whole → Woven (c :: kept) (c :: whole)
  | insert {body kept whole : List Char} : IsBody body → kept ≠ [] → Woven kept whole →
    Woven kept (escape :: (body ++ whole))

/-- Whether a text has a sequence in it that is interrupted by at least one other. -/
def IsInterrupted (s : List Char) : Prop :=
  ∃ before body whole after, s = before ++ escape :: (whole ++ after) ∧ IsBody body ∧
    Woven body whole ∧ whole ≠ body

theorem IsInterrupted.append_left (h : IsInterrupted s) (more : List Char) :
    IsInterrupted (more ++ s) := by
  obtain ⟨before, body, whole, after, rfl, hbody⟩ := h
  exact ⟨more ++ before, body, whole, after, by rw [List.append_assoc], hbody⟩

/-- The pass leaves out what has been put in. -/
theorem Woven.scan_append (h : Woven kept whole) (hescape : escape ∉ kept) (after : List Char) :
    scan (whole ++ after) = kept ++ scan after := by
  induction h with
  | nil => rfl
  | keep _ ih =>
    rw [List.mem_cons, not_or] at hescape
    rw [List.cons_append, scan_cons (Ne.symm hescape.1), ih hescape.2, List.cons_append]
  | insert hbody _ _ ih =>
    rw [List.cons_append, List.append_assoc, scan_sequence hbody, ih hescape]

/-- Where something has been put in, it is before a part of the characters. -/
theorem Woven.exists_cut (h : Woven kept whole) (hne : whole ≠ kept) :
    ∃ early late rest, kept = early ++ late ∧ late ≠ [] ∧ whole = early ++ escape :: rest := by
  induction h with
  | nil => exact absurd rfl hne
  | @keep c kept whole _ ih =>
    obtain ⟨early, late, rest, rfl, hlate, rfl⟩ := ih fun heq => hne (congrArg (c :: ·) heq)
    exact ⟨c :: early, late, rest, rfl, hlate, rfl⟩
  | @insert body kept whole _ hkept _ _ => exact ⟨[], kept, body ++ whole, rfl, hkept, rfl⟩

/-- What the pass keeps has been woven into the text. -/
theorem exists_woven {after : List Char} (h : scan s = kept ++ after) (hkept : kept ≠ [])
    (hescape : escape ∉ kept) : ∃ whole rest, s = whole ++ rest ∧ Woven kept whole := by
  induction s using scan_induction generalizing kept with
  | nil =>
    rw [scan_nil, List.nil_eq_append_iff] at h
    exact absurd h.1 hkept
  | char c s hc ih =>
    rw [scan_cons hc] at h
    cases kept with
    | nil => exact absurd rfl hkept
    | cons x kept =>
      obtain ⟨rfl, hrest⟩ := List.cons.inj h
      rw [List.mem_cons, not_or] at hescape
      by_cases hlast : kept = []
      · subst hlast
        exact ⟨[c], s, rfl, .keep .nil⟩
      · obtain ⟨whole, rest, rfl, hwoven⟩ := ih hrest hlast hescape.2
        exact ⟨c :: whole, rest, rfl, .keep hwoven⟩
  | sequence body s hbody ih =>
    rw [scan_sequence hbody] at h
    obtain ⟨whole, rest, rfl, hwoven⟩ := ih h hkept hescape
    exact ⟨escape :: (body ++ whole), rest, by simp, .insert hbody hkept hwoven⟩
  | unfinished s hnone ih =>
    rw [scan_escape hnone] at h
    cases kept with
    | nil => exact absurd rfl hkept
    | cons x kept =>
      obtain ⟨rfl, -⟩ := List.cons.inj h
      exact absurd List.mem_cons_self hescape

theorem isInterrupted_of_scan {before body after : List Char} (hbody : IsBody body)
    (h : scan s = before ++ escape :: (body ++ after)) : IsInterrupted s := by
  induction s using scan_induction generalizing before with
  | nil => cases before <;> cases h
  | char c s hc ih =>
    rw [scan_cons hc] at h
    cases before with
    | nil => exact absurd (List.cons.inj h).1 hc
    | cons x before => exact (ih (List.cons.inj h).2).append_left [c]
  | sequence inner s hinner ih =>
    rw [scan_sequence hinner] at h
    exact (ih h).append_left (escape :: inner)
  | unfinished s hnone ih =>
    rw [scan_escape hnone] at h
    cases before with
    | nil =>
      obtain ⟨whole, rest, rfl, hwoven⟩ :=
        exists_woven (List.cons.inj h).2 hbody.ne_nil hbody.escape_not_mem
      refine ⟨[], body, whole, rest, rfl, hbody, hwoven, ?_⟩
      -- With nothing put in, the escape character would have had its body.
      rintro rfl
      cases hnone.symm.trans (sequenceLength?_body hbody rest)
    | cons x before => exact (ih (List.cons.inj h).2).append_left [escape]

/-- The pass leaves a sequence behind just if there is an interrupted one. -/
theorem hasSequence_scan_iff : HasSequence (scan s) ↔ IsInterrupted s := by
  constructor
  · rintro ⟨before, body, after, h, hbody⟩
    exact isInterrupted_of_scan hbody h
  · rintro ⟨before, body, whole, after, rfl, hbody, hwoven, hne⟩
    obtain ⟨early, late, rest, hearly, hlate, hwhole⟩ := hwoven.exists_cut hne
    have hnone : sequenceLength? (whole ++ after) = none := by
      rw [hwhole, List.append_assoc, List.cons_append, sequenceLength?_append printable_escape]
      exact sequenceLength?_of_more (hearly ▸ hbody) hlate
    rw [scan_append_cons printable_escape, scan_escape hnone,
      hwoven.scan_append hbody.escape_not_mem]
    exact ⟨scan before, body, scan after, rfl, hbody⟩

/-- **Leftovers.** Removing escape sequences a second time changes nothing just if no match of the
expression begins anywhere in what the first time has left, and this is so just if the text has no
sequence that is interrupted by others. -/
theorem strip_leftover (s : List Char) : List.TFAE [
    strip (strip s) = strip s,
    ∀ c : Cursor, c.text = strip s → sequence.matchAt? c = none,
    ¬ IsInterrupted s] := by
  simp only [strip_eq_scan]
  tfae_have 1 ↔ 2 := scan_eq_self_iff.trans matchAt?_eq_none_iff.symm
  tfae_have 2 ↔ 3 := matchAt?_eq_none_iff.trans (not_congr hasSequence_scan_iff)
  tfae_finish

/-- A colour that is interrupted by another one. -/
def interrupted : List Char := "\x1b[\x1b[0m31mred".toList

/-- The parts of the interrupted sequence are brought together, and a second time finds them. -/
theorem strip_interrupted : strip (strip interrupted) ≠ strip interrupted ∧
    ∃ c : Cursor, c.text = strip interrupted ∧ sequence.matchAt? c ≠ none :=
  ⟨by decide, .start (strip interrupted), by decide, by decide⟩

end LogSift.Text.Ansi
