import LogSift.Text.Lines
import LogSift.Proofs.Text.Ansi.Sequence

/-!
# Texts without escape sequences

Removing the matches of the expression is reading the text in one pass: an escape character with a
body is left out, everything else is kept. A character that is not printable is in no body, so what
comes before it is read on its own; line feeds and escape characters are such characters.

* `scan_induction`: what the pass meets one after the other.
* `strip_eq_scan`: removing is one pass.
* `scan_append_cons`: a cut before a character that is not printable.
* `lines_strip`: the lines of a text without escape sequences are those of the text without theirs.
* `strip_one_pass`: the pass, and what it keeps.
-/

namespace LogSift.Text.Ansi

open Regex

variable {s rest body : List Char} {c : Char}

/-! ## One pass -/

theorem scanFrom_eq_drop (n : Nat) (s : List Char) : scanFrom n s = scan (s.drop n) := by
  induction s generalizing n with
  | nil =>
    rw [List.drop_nil, scanFrom]
    rfl
  | cons c s ih =>
    cases n with
    | zero => rfl
    | succ n => rw [scanFrom, ih, List.drop_succ_cons]

@[simp] theorem scan_nil : scan [] = [] := rfl

theorem scan_cons (hc : c ≠ escape) (s : List Char) : scan (c :: s) = c :: scan s := by
  simp [scan, scanFrom, hc]

/-- An escape character without a body is kept. -/
theorem scan_escape (h : sequenceLength? s = none) : scan (escape :: s) = escape :: scan s := by
  simp [scan, scanFrom, h]

/-- An escape sequence is left out. -/
theorem scan_sequence (h : IsBody body) (s : List Char) :
    scan (escape :: (body ++ s)) = scan s := by
  rw [scan, scanFrom, if_pos rfl, sequenceLength?_body h]
  dsimp only
  rw [scanFrom_eq_drop, List.drop_left]

/-- What the pass meets: characters, escape sequences, and escape characters without a body. -/
theorem scan_induction {motive : List Char → Prop} (nil : motive [])
    (char : ∀ c s, c ≠ escape → motive s → motive (c :: s))
    (sequence : ∀ body s, IsBody body → motive s → motive (escape :: (body ++ s)))
    (unfinished : ∀ s, sequenceLength? s = none → motive s → motive (escape :: s))
    (s : List Char) : motive s := by
  -- A body takes more than one character, so the induction is on the length.
  induction hn : s.length using Nat.strongRecOn generalizing s with
  | _ n ih =>
    subst hn
    cases s with
    | nil => exact nil
    | cons c s =>
      by_cases hc : c = escape
      · subst hc
        cases hlength : sequenceLength? s with
        | none => exact unfinished s hlength (ih _ (Nat.lt_succ_self _) s rfl)
        | some n =>
          obtain ⟨body, rest, rfl, hbody, -⟩ := sequenceLength?_eq_some_iff.1 hlength
          have hless : rest.length < (escape :: (body ++ rest)).length := by
            simp only [List.length_cons, List.length_append]
            omega
          exact sequence body rest hbody (ih _ hless rest rfl)
      · exact char c s hc (ih _ (Nat.lt_succ_self _) s rfl)

theorem removeFrom_sequence (skip : Nat) (before : List Char) (offset : Nat) (s : List Char) :
    removeFrom sequence skip before offset s = scanFrom skip s := by
  induction s generalizing skip before offset with
  | nil =>
    rw [removeFrom, scanFrom]
  | cons c s ih =>
    cases skip with
    | succ skip => rw [removeFrom, scanFrom, ih]
    | zero =>
      rw [removeFrom, scanFrom, matchLength?_sequence]
      by_cases hc : c = escape
      · rw [if_pos hc, if_pos hc]
        cases sequenceLength? s with
        | none => exact congrArg (c :: ·) (ih _ _ _)
        | some n => exact ih _ _ _
      · rw [if_neg hc, if_neg hc]
        exact congrArg (c :: ·) (ih _ _ _)

/-- Removing escape sequences is one pass over the text. -/
theorem strip_eq_scan (s : List Char) : strip s = scan s := removeFrom_sequence 0 [] 0 s

/-! ## Parts of a text -/

/-- The pass reads what comes before a character that is not printable on its own. -/
theorem scan_append_cons (hc : printable.holds c = false) (s rest : List Char) :
    scan (s ++ c :: rest) = scan s ++ scan (c :: rest) := by
  induction s using scan_induction with
  | nil => rfl
  | char x s hx ih => rw [List.cons_append, scan_cons hx, scan_cons hx, ih, List.cons_append]
  | sequence body s hbody ih =>
    rw [List.cons_append, List.append_assoc, scan_sequence hbody, scan_sequence hbody, ih]
  | unfinished s hnone ih =>
    have hmore : sequenceLength? (s ++ c :: rest) = none := by
      rw [sequenceLength?_append hc, hnone]
    rw [List.cons_append, scan_escape hmore, scan_escape hnone, ih, List.cons_append]

/-- The same before the rest of a text, if this does not begin with a printable character. -/
theorem scan_append (hrest : ∀ x ∈ rest.head?, printable.holds x = false) (s : List Char) :
    scan (s ++ rest) = scan s ++ scan rest := by
  cases rest with
  | nil => simp
  | cons c rest => exact scan_append_cons (hrest c rfl) s rest

theorem scan_eq_self (h : escape ∉ s) : scan s = s := by
  induction s with
  | nil => rfl
  | cons c s ih =>
    rw [List.mem_cons, not_or] at h
    rw [scan_cons (Ne.symm h.1), ih h.2]

/-- The pass keeps a part of the characters in their order. -/
theorem scan_sublist (s : List Char) : (scan s).Sublist s := by
  induction s using scan_induction with
  | nil => exact .slnil
  | char x s hx ih =>
    rw [scan_cons hx]
    exact ih.cons_cons x
  | sequence body s hbody ih =>
    rw [scan_sequence hbody]
    exact (ih.trans (List.sublist_append_right body s)).cons escape
  | unfinished s hnone ih =>
    rw [scan_escape hnone]
    exact ih.cons_cons escape

/-! ## Unfinished sequences -/

/-- Whether a text is the beginning of an escape sequence and not all of it. -/
inductive IsUnfinished : List Char → Prop
  | intro {body more : List Char} : IsBody (body ++ more) → more ≠ [] →
    IsUnfinished (escape :: body)

/-- The beginning of a body has no body in it. -/
theorem sequenceLength?_of_more {more : List Char} (h : IsBody (body ++ more)) (hmore : more ≠ []) :
    sequenceLength? body = none := by
  rw [Option.eq_none_iff_forall_ne_some]
  intro n hn
  obtain ⟨inner, rest, rfl, hinner, -⟩ := sequenceLength?_eq_some_iff.1 hn
  have heq : inner ++ (rest ++ more) = inner ++ rest ++ more ++ [] := by simp
  have hsame : inner = inner ++ rest ++ more := hinner.unique h heq
  rw [List.append_assoc, List.self_eq_append_right, List.append_eq_nil_iff] at hsame
  exact hmore hsame.2

theorem scan_unfinished (h : IsUnfinished s) : scan s = s := by
  cases h with
  | @intro body more hbody hmore =>
    have hescape : escape ∉ body := fun hmem =>
      hbody.escape_not_mem (List.mem_append_left more hmem)
    rw [scan_escape (sequenceLength?_of_more hbody hmore), scan_eq_self hescape]

/-- **One pass.** Removing escape sequences is one pass over the text that never goes back. What it
gives is a part of the characters in their order, and a text without an escape character stays as
it is. An unfinished sequence stays where it is, at the end of the text or before an escape
character or a line feed, and what is before and after it is read on its own. -/
theorem strip_one_pass (s : List Char) :
    strip s = scan s ∧ (strip s).Sublist s ∧ (escape ∉ s → strip s = s) ∧
      ∀ before unfinished after, s = before ++ (unfinished ++ after) → IsUnfinished unfinished →
        (∀ c ∈ after.head?, c = escape ∨ c = '\n') →
        strip s = strip before ++ (unfinished ++ strip after) := by
  simp only [strip_eq_scan]
  refine ⟨trivial, scan_sublist s, scan_eq_self, ?_⟩
  rintro before unfinished after rfl hunfinished hafter
  have hcut : ∀ c ∈ after.head?, printable.holds c = false := by
    intro c hc
    rcases hafter c hc with rfl | rfl
    · exact printable_escape
    · exact printable_newline
  have hbegin : ∀ c ∈ (unfinished ++ after).head?, printable.holds c = false := by
    intro c hc
    cases hunfinished
    cases hc
    exact printable_escape
  rw [scan_append hbegin, scan_append hcut, scan_unfinished hunfinished]

/-- A text with a sequence that is cut off by another one, and one at the end. -/
def cutOff : List Char := "a\x1b[3\x1b[0m1mb\x1b[".toList

/-- The first sequence stays, the one after it does not. -/
theorem strip_one_pass_cutOff :
    IsUnfinished [escape, '[', '3'] ∧ strip ['a'] = ['a'] ∧
      strip cutOff = strip ['a'] ++ ([escape, '[', '3'] ++ strip "\x1b[0m1mb\x1b[".toList) := by
  have hbody : IsBody (['[', '3'] ++ ['m']) :=
    @IsBody.control ['3'] [] 'm' (List.forall_mem_singleton.2 (by decide)) (List.forall_mem_nil _)
      (by decide)
  have hunfinished : IsUnfinished [escape, '[', '3'] := .intro hbody (by decide)
  refine ⟨hunfinished, (strip_one_pass ['a']).2.2.1 (by decide), ?_⟩
  refine (strip_one_pass cutOff).2.2.2 ['a'] _ _ (by decide) hunfinished fun c hc => ?_
  cases hc
  exact .inl rfl

/-! ## Lines -/

theorem scan_joinWith (pieces : List (List Char)) :
    scan (joinWith '\n' pieces) = joinWith '\n' (pieces.map scan) := by
  fun_induction joinWith '\n' pieces with
  | case1 => rfl
  | case2 piece => rfl
  | case3 piece next pieces ih =>
    rw [scan_append_cons printable_newline, scan_cons (by decide), ih]
    rfl

/-- **Lines.** The lines of a text without its escape sequences are the lines of the text, each
without its own. No match of the expression has a line feed in it. -/
theorem lines_strip (s : List Char) :
    lines (strip s) = (lines s).map strip ∧ (lines (strip s)).length = (lines s).length ∧
      ∀ c n, matchLength? sequence c = some n → '\n' ∉ c.after.take n := by
  have hlines : lines (strip s) = (lines s).map strip := by
    have hpiece : ∀ piece ∈ (lines s).map scan, '\n' ∉ piece := by
      intro piece hmem
      obtain ⟨line, hline, rfl⟩ := List.mem_map.1 hmem
      exact fun hfeed => not_mem_of_mem_splitOn hline ((scan_sublist line).subset hfeed)
    calc lines (strip s)
      _ = lines (scan (joinWith '\n' (lines s))) := by
        rw [strip_eq_scan, lines, lines, lines, joinWith_splitOn]
      _ = lines (joinWith '\n' ((lines s).map scan)) := by rw [scan_joinWith]
      _ = (lines s).map scan := splitOn_joinWith (by simp [lines, splitOn_ne_nil]) hpiece
      _ = (lines s).map strip := List.map_congr_left fun line _ => (strip_eq_scan line).symm
  refine ⟨hlines, by rw [hlines, List.length_map], ?_⟩
  intro c n h
  obtain ⟨body, rest, hafter, hbody, rfl⟩ := matchLength?_eq_some_iff.1 h
  rw [hafter, List.take_succ_cons, List.take_left, List.mem_cons, not_or]
  exact ⟨by decide, fun hfeed => by cases (hbody.printable _ hfeed).symm.trans printable_newline⟩

/-- Two lines with colours, the second with a sequence that is not finished. -/
def colouredLines : List Char := "\x1b[1ma\x1b[0m\nb\x1b[3\nc".toList

/-- The first match is before the first line feed, and there are three lines in the end. -/
theorem lines_strip_colouredLines :
    matchLength? sequence (.start colouredLines) = some 4 ∧ '\n' ∉ colouredLines.take 4 ∧
      (lines (strip colouredLines)).length = (lines colouredLines).length ∧
      (lines colouredLines).length = 3 := by
  have hmatch : matchLength? sequence (.start colouredLines) = some 4 := by decide
  obtain ⟨-, hlength, hfeed⟩ := lines_strip colouredLines
  exact ⟨hmatch, hfeed _ 4 hmatch, hlength, by decide⟩

end LogSift.Text.Ansi
