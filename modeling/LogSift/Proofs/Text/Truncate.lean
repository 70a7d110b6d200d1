import LogSift.Text.Truncate
import Mathlib.Data.List.TakeWhile

/-!
# What a shortened message shows

A message is shown by its first line (`firstLine`). With room for at least three characters this is
the whole line, or its beginning with three dots behind it.

* `IsShortened`: what a shortened message is like, apart from how it is made. No other text is like
  this (`truncate_eq_iff`).
* `truncate_truncate`: a second cut to a smaller length does not show the first one.
* `truncateText_shortens`: both of it, for texts.
-/

namespace LogSift.Text

variable {limit k : Int} {s t : List Char}

/-! ## First lines -/

/-- The first line of a text: the characters before the first line feed. -/
def firstLine (s : List Char) : List Char := s.takeWhile (· ≠ '\n')

theorem headD_lines (s : List Char) : (lines s).headD [] = firstLine s := by
  unfold lines firstLine
  induction s with
  | nil => rfl
  | cons c s ih =>
    rw [splitOn]
    split
    · next hc => simp [hc]
    · next hc =>
      rw [List.takeWhile_cons_of_pos (by simpa using hc), ← ih]
      cases hs : splitOn '\n' s with
      | nil => exact absurd hs (splitOn_ne_nil '\n' s)
      | cons piece pieces => rfl

theorem newline_not_mem_firstLine (s : List Char) : '\n' ∉ firstLine s := by
  intro h
  simpa using List.mem_takeWhile_imp h

theorem firstLine_of_not_mem (h : '\n' ∉ s) : firstLine s = s := by
  refine List.takeWhile_eq_self_iff.2 fun c hc => ?_
  rw [decide_eq_true_eq]
  rintro rfl
  exact h hc

/-! ## One cut -/

/-- What stands behind a line that is cut off. -/
def dots : List Char := ['.', '.', '.']

theorem length_dots : dots.length = 3 := rfl

/-- Whether a text is a message shortened to a length. It is one line and not too long. If the first
line of the message fits it is this line; if not it uses the whole length, for the beginning of the
line and the dots. -/
structure IsShortened (limit : Int) (message text : List Char) : Prop where
  newline_not_mem : '\n' ∉ text
  length_le : (text.length : Int) ≤ limit
  of_fits : ((firstLine message).length : Int) ≤ limit → text = firstLine message
  length_eq : limit < (firstLine message).length → (text.length : Int) = limit
  dots_suffix : limit < (firstLine message).length → dots <:+ text
  take_eq : limit < (firstLine message).length →
    text.take (limit - 3).toNat = (firstLine message).take (limit - 3).toNat

theorem truncate_congr (h : firstLine s = firstLine t) : truncate limit s = truncate limit t := by
  rw [truncate, truncate, headD_lines, headD_lines, h]

theorem truncate_of_fits (h : ((firstLine s).length : Int) ≤ limit) :
    truncate limit s = firstLine s := by
  rw [truncate, headD_lines]
  exact if_pos h

theorem truncate_of_long (hlimit : 3 ≤ limit) (h : limit < (firstLine s).length) :
    truncate limit s = (firstLine s).take (limit - 3).toNat ++ dots := by
  rw [truncate, headD_lines]
  refine (if_neg (Int.not_le.2 h)).trans ?_
  rw [takeSigned, if_pos (by omega), dots]

theorem isShortened_truncate (hlimit : 3 ≤ limit) (s : List Char) :
    IsShortened limit s (truncate limit s) := by
  by_cases h : ((firstLine s).length : Int) ≤ limit
  · have hnot : ¬ limit < (firstLine s).length := Int.not_lt.2 h
    rw [truncate_of_fits h]
    exact ⟨newline_not_mem_firstLine s, h, fun _ => rfl, fun hlong => absurd hlong hnot,
      fun hlong => absurd hlong hnot, fun _ => rfl⟩
  · have hlong : limit < (firstLine s).length := Int.not_le.1 h
    have hkept : ((firstLine s).take (limit - 3).toNat).length = (limit - 3).toNat :=
      List.length_take_of_le (by omega)
    have hlength : (((firstLine s).take (limit - 3).toNat ++ dots).length : Int) = limit := by
      rw [List.length_append, hkept, length_dots]
      omega
    rw [truncate_of_long hlimit hlong]
    refine ⟨?_, Int.le_of_eq hlength, fun hfits => absurd hfits h, fun _ => hlength,
      fun _ => List.suffix_append _ _, fun _ => List.take_left' hkept⟩
    rw [List.mem_append, not_or]
    exact ⟨fun hmem => newline_not_mem_firstLine s (List.mem_of_mem_take hmem), by decide⟩

/-- The beginning and the dots leave no room for anything else. -/
theorem IsShortened.truncate_eq (hlimit : 3 ≤ limit) (h : IsShortened limit s t) :
    truncate limit s = t := by
  by_cases hfits : ((firstLine s).length : Int) ≤ limit
  · rw [truncate_of_fits hfits, h.of_fits hfits]
  · have hlong : limit < (firstLine s).length := Int.not_le.1 hfits
    obtain ⟨front, rfl⟩ := h.dots_suffix hlong
    have hfront : front.length = (limit - 3).toNat := by
      have hlength := h.length_eq hlong
      rw [List.length_append, length_dots] at hlength
      omega
    rw [truncate_of_long hlimit hlong, ← h.take_eq hlong, List.take_left' hfront]

theorem truncate_eq_iff (hlimit : 3 ≤ limit) : truncate limit s = t ↔ IsShortened limit s t := by
  constructor
  · rintro rfl
    exact isShortened_truncate hlimit s
  · exact IsShortened.truncate_eq hlimit

/-! ## Two cuts -/

/-- A text that is shortened already stays as it is. -/
theorem IsShortened.truncate_self (h : IsShortened limit s t) : truncate limit t = t := by
  have hline : firstLine t = t := firstLine_of_not_mem h.newline_not_mem
  rw [truncate_of_fits (by rw [hline]; exact h.length_le), hline]

/-- Of the beginning that the first cut has left the second takes a beginning, and the dots of the
first cut stand behind it. -/
theorem truncate_truncate (hk : 3 ≤ k) (hkl : k ≤ limit) (s : List Char) :
    truncate k (truncate limit s) = truncate k s := by
  have h := isShortened_truncate (Int.le_trans hk hkl) s
  have hline := firstLine_of_not_mem h.newline_not_mem
  by_cases hfits : ((firstLine s).length : Int) ≤ limit
  · -- The first cut leaves the line as it is, and the second looks at the line only.
    refine truncate_congr ?_
    rw [hline, h.of_fits hfits]
  · have hlong : limit < (firstLine s).length := Int.not_le.1 hfits
    rcases Int.lt_or_eq_of_le hkl with hlt | rfl
    · have hle : (k - 3).toNat ≤ (limit - 3).toNat := by omega
      have hlength := h.length_eq hlong
      rw [truncate_of_long hk (by rw [hline]; omega), truncate_of_long hk (by omega), hline,
        ← Nat.min_eq_left hle, ← List.take_take, h.take_eq hlong, List.take_take]
    · exact h.truncate_self

/-! ## Texts -/

theorem toList_truncateText (limit : Int) (message : String) :
    (truncateText limit message).toList = truncate limit message.toList :=
  String.toList_ofList

/-- **Shortening.** A message that is shortened to three characters or more is the one text that
`IsShortened` describes. To shorten it once more, to a length that is not larger, gives the same as
to shorten the message to that length in the first place. -/
theorem truncateText_shortens (message : String) (hlimit : 3 ≤ limit) :
    (∀ text, truncateText limit message = text ↔
      IsShortened limit message.toList text.toList) ∧
    ∀ k, 3 ≤ k → k ≤ limit →
      truncateText k (truncateText limit message) = truncateText k message := by
  refine ⟨fun text => ?_, fun k hk hkl => ?_⟩
  · rw [← String.toList_inj, toList_truncateText, truncate_eq_iff hlimit]
  · rw [← String.toList_inj, toList_truncateText, toList_truncateText, toList_truncateText,
      truncate_truncate hk hkl]

/-- Eight places show five characters of a line of ten; four places show one, after the first cut as
well. -/
theorem truncateText_shortens_twice :
    IsShortened 8 "0123456789\nmore".toList "01234...".toList ∧
      truncateText 4 (truncateText 8 "0123456789\nmore") = "0..." := by
  have hroom : (3 : Int) ≤ 8 := by decide
  obtain ⟨hone, htwo⟩ := truncateText_shortens "0123456789\nmore" hroom
  refine ⟨(hone _).1 (by decide), (htwo 4 (by decide) (by decide)).trans (by decide)⟩

end LogSift.Text
