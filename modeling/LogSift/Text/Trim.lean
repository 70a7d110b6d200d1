import LogSift.Unicode.Space

/-!
# Trimming

* `trimBy`: removes the characters of a class from both ends of a text; what lies between them is
  left alone (`isInfix_trimBy`), and no character of the class is at an end any more
  (`isTrimmed_trimBy`).
* `trim`: removes blanks of any script.
-/

namespace LogSift.Text

/-- The text without the characters of a class at its two ends. -/
def trimBy (p : Char → Bool) (s : List Char) : List Char :=
  ((s.dropWhile p).reverse.dropWhile p).reverse

/-- Whether no character of a class stands at an end of a text. -/
def IsTrimmed (p : Char → Bool) (s : List Char) : Prop :=
  (∀ c ∈ s.head?, p c = false) ∧ ∀ c ∈ s.getLast?, p c = false

theorem isInfix_trimBy (p : Char → Bool) (s : List Char) : trimBy p s <:+: s := by
  have hback : (s.dropWhile p).reverse.dropWhile p <:+ (s.dropWhile p).reverse :=
    List.dropWhile_suffix p
  have hfront : s.dropWhile p <:+ s := List.dropWhile_suffix p
  have := List.reverse_infix.2 hback.isInfix
  rw [List.reverse_reverse] at this
  exact this.trans hfront.isInfix

theorem eq_false_of_mem_head?_dropWhile {p : Char → Bool} {s : List Char} {c : Char}
    (h : c ∈ (s.dropWhile p).head?) : p c = false := by
  have := List.head?_dropWhile_not p s
  rwa [h] at this

theorem isTrimmed_trimBy (p : Char → Bool) (s : List Char) : IsTrimmed p (trimBy p s) := by
  refine ⟨fun c hc => ?_, fun c hc => ?_⟩
  · -- The front of what is left is the front before the back was removed.
    have hback : (s.dropWhile p).reverse.dropWhile p <:+ (s.dropWhile p).reverse :=
      List.dropWhile_suffix p
    obtain ⟨removed, hremoved⟩ := hback
    have hs : s.dropWhile p = trimBy p s ++ removed.reverse := by
      rw [← List.reverse_reverse (s.dropWhile p), ← hremoved, List.reverse_append, trimBy]
    refine eq_false_of_mem_head?_dropWhile (s := s) ?_
    rw [hs, List.head?_append, hc]
    rfl
  · rw [trimBy, List.getLast?_reverse] at hc
    exact eq_false_of_mem_head?_dropWhile hc

/-- The text without blanks at its two ends. -/
def trim (s : List Char) : List Char := trimBy Unicode.isSpace s

end LogSift.Text
