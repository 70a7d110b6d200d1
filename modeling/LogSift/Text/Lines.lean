/-!
# Lines

* `splitOn`: cuts a text at every occurrence of a character; `lines` cuts at line feeds. A text
  without a separator is one piece, the empty text is one empty piece.
  No piece has a separator in it (`not_mem_of_mem_splitOn`).
* `joinWith`: puts a separator between pieces. `joinWith_splitOn` says that it undoes the cut, and
  `splitOn_joinWith` that the cut undoes it.
* `unifyNewlines`: a return, alone or before a line feed, becomes a line feed. The texts without a
  return are those that stay as they are (`unifyNewlines_eq_self_iff`).
-/

namespace LogSift.Text

/-- The pieces of a text between the occurrences of a character. -/
def splitOn (sep : Char) : List Char → List (List Char)
  | [] => [[]]
  | c :: rest =>
    if c = sep then [] :: splitOn sep rest
    else match splitOn sep rest with
      | [] => [[c]]
      | piece :: pieces => (c :: piece) :: pieces

/-- The pieces with a separator between neighbours. -/
def joinWith (sep : Char) : List (List Char) → List Char
  | [] => []
  | [piece] => piece
  | piece :: next :: pieces => piece ++ sep :: joinWith sep (next :: pieces)

theorem splitOn_ne_nil (sep : Char) (s : List Char) : splitOn sep s ≠ [] := by
  cases s with
  | nil => simp [splitOn]
  | cons c rest =>
    simp only [splitOn]
    split
    · simp
    · split <;> simp

theorem not_mem_of_mem_splitOn {sep : Char} {s piece : List Char} (h : piece ∈ splitOn sep s) :
    sep ∉ piece := by
  induction s generalizing piece with
  | nil =>
    rw [splitOn, List.mem_singleton] at h
    simp [h]
  | cons c rest ih =>
    rw [splitOn] at h
    split at h
    · rcases List.mem_cons.1 h with rfl | h
      · simp
      · exact ih h
    · next hc =>
      split at h
      · rw [List.mem_singleton] at h
        simpa [h] using Ne.symm hc
      · next first pieces hpieces =>
        rw [hpieces, List.forall_mem_cons] at ih
        rcases List.mem_cons.1 h with rfl | h
        · simpa [Ne.symm hc] using ih.1
        · exact ih.2 piece h

theorem joinWith_splitOn (sep : Char) (s : List Char) : joinWith sep (splitOn sep s) = s := by
  induction s with
  | nil => rfl
  | cons c rest ih =>
    simp only [splitOn]
    split
    · next h =>
      cases hp : splitOn sep rest with
      | nil => exact absurd hp (splitOn_ne_nil sep rest)
      | cons piece pieces => rw [hp] at ih; simp [joinWith, ih, h]
    · cases hp : splitOn sep rest with
      | nil => exact absurd hp (splitOn_ne_nil sep rest)
      | cons piece pieces =>
        rw [hp] at ih
        cases pieces with
        | nil => simpa [joinWith] using ih
        | cons next more => simpa [joinWith] using ih

theorem splitOn_append (sep : Char) (s t : List Char) :
    splitOn sep (s ++ sep :: t) = splitOn sep s ++ splitOn sep t := by
  induction s with
  | nil => simp [splitOn]
  | cons c s ih =>
    simp only [List.cons_append, splitOn, ih]
    split
    · rfl
    · cases hs : splitOn sep s with
      | nil => exact absurd hs (splitOn_ne_nil sep s)
      | cons piece pieces => rfl

theorem splitOn_of_not_mem {sep : Char} {s : List Char} (h : sep ∉ s) : splitOn sep s = [s] := by
  induction s with
  | nil => rfl
  | cons c s ih =>
    rw [List.mem_cons, not_or] at h
    rw [splitOn, if_neg (Ne.symm h.1), ih h.2]

/-- Pieces without the separator are cut out of the text that joins them. -/
theorem splitOn_joinWith {sep : Char} {pieces : List (List Char)} (hne : pieces ≠ [])
    (h : ∀ piece ∈ pieces, sep ∉ piece) : splitOn sep (joinWith sep pieces) = pieces := by
  fun_induction joinWith sep pieces with
  | case1 => exact absurd rfl hne
  | case2 piece => exact splitOn_of_not_mem (h piece List.mem_cons_self)
  | case3 piece next pieces ih =>
    obtain ⟨hpiece, hpieces⟩ := List.forall_mem_cons.1 h
    rw [splitOn_append, splitOn_of_not_mem hpiece, ih (by simp) hpieces, List.singleton_append]

/-- The lines of a text. -/
def lines (s : List Char) : List (List Char) := splitOn '\n' s

/-- Every return, with the line feed after it if there is one, becomes a line feed. -/
def unifyNewlines : List Char → List Char
  | [] => []
  | '\r' :: '\n' :: rest => '\n' :: unifyNewlines rest
  | c :: rest => (if c = '\r' then '\n' else c) :: unifyNewlines rest

theorem return_not_mem_unifyNewlines (s : List Char) : '\r' ∉ unifyNewlines s := by
  fun_induction unifyNewlines s with
  | case1 => simp
  | case2 rest ih => simp [ih]
  | case3 c rest _ ih =>
    rw [List.mem_cons, not_or]
    refine ⟨?_, ih⟩
    split
    · decide
    · next hc => exact Ne.symm hc

/-- The texts without a return stay as they are. -/
theorem unifyNewlines_eq_self_iff {s : List Char} : unifyNewlines s = s ↔ '\r' ∉ s := by
  refine ⟨fun h => h ▸ return_not_mem_unifyNewlines s, fun h => ?_⟩
  fun_induction unifyNewlines s with
  | case1 => rfl
  | case2 rest ih => simp at h
  | case3 c rest _ ih =>
    have hc : c ≠ '\r' := by
      rintro rfl
      simp at h
    rw [if_neg hc, ih fun hmem => h (List.mem_cons_of_mem c hmem)]

end LogSift.Text
