import Mathlib.Data.List.Forall2
import Mathlib.Data.List.Induction
import LogSift.Outcome
import LogSift.Matcher.Run

/-!
# From matchers to rules

What a matcher is before it sees a line.

* `mode_eq_single_iff`, `mode_eq_loop_iff`: the shapes of the two modes. Nothing but the loop marks
  decides between them (`mode_congr`).
* `rulesFrom_eq_ok`: the rules are the sub-patterns, each ready for matching. With a loop they are
  at least one header and the loop (`exists_rules`).
* `sift_text`: a matcher on a text is its checks, and then the records of its description. Where it
  passes the checks, what it finds depends on the description alone (`sift_of_ready`), and where it
  finds records, it has passed them (`exists_job_of_sift`).
* `lines_append`: a text put together at a line feed has the lines of its two parts.
* `report`: a matcher for the examples of the theorems about matchers.
-/

namespace LogSift

namespace Text

theorem lines_append (a b : String) :
    lines (a ++ "\n" ++ b).toList = lines a.toList ++ lines b.toList := by
  have : (a ++ "\n" ++ b).toList = a.toList ++ '\n' :: b.toList := by simp
  rw [this]
  exact splitOn_append '\n' a.toList b.toList

end Text

namespace Matcher

/-! ## Modes -/

theorem mode_eq_single_iff {d : Description} : d.mode = .ok .single ↔ ∃ s, d.pattern = [s] := by
  unfold Description.mode
  split
  · next h => simpa using List.length_eq_one_iff.1 h
  · next h =>
    rw [List.length_eq_one_iff] at h
    split <;> simp [h]

theorem mode_eq_loop_iff {d : Description} :
    d.mode = .ok .loop ↔ ∃ headers loop, d.pattern = headers ++ [loop] ∧ headers ≠ [] ∧
      loop.loop = true ∧ ∀ s ∈ headers, s.loop = false := by
  unfold Description.mode Description.loopIndex?
  generalize d.pattern = pattern
  cases pattern using List.reverseRecOn with
  | nil => simp
  | append_singleton headers loop =>
    have hshape : (∃ front last, headers ++ [loop] = front ++ [last] ∧ front ≠ [] ∧
        last.loop = true ∧ ∀ s ∈ front, s.loop = false) ↔
        headers ≠ [] ∧ loop.loop = true ∧ ∀ s ∈ headers, s.loop = false := by simp
    rw [hshape]
    by_cases hnil : headers = []
    · simp [hnil]
    · simp [hnil]

/-- The mode depends on nothing but the loop marks. -/
theorem mode_congr {d d' : Description}
    (h : d.pattern.map SubPattern.loop = d'.pattern.map SubPattern.loop) : d.mode = d'.mode := by
  have hlen : d.pattern.length = d'.pattern.length := by simpa using congrArg List.length h
  have hlast : d.pattern.getLast?.map SubPattern.loop = d'.pattern.getLast?.map SubPattern.loop :=
    by rw [← List.getLast?_map, ← List.getLast?_map, h]
  have hany (d : Description) : d.pattern.dropLast.any SubPattern.loop =
      (d.pattern.map SubPattern.loop).dropLast.any id := by
    rw [← List.map_dropLast, List.any_map]
    rfl
  have hindex (d : Description) : d.loopIndex?.isSome =
      (d.pattern.getLast?.map SubPattern.loop).getD false := by
    unfold Description.loopIndex?
    cases d.pattern.getLast? with
    | none => rfl
    | some s => cases hs : s.loop <;> simp [hs]
  unfold Description.mode
  rw [hlen, hindex, hindex, hlast, hany, hany, h]

/-! ## Rules -/

/-- What stands on the right of a relation item by item has a partner on the left. -/
theorem exists_left_of_forall₂ {α β : Type} {R : α → β → Prop} {xs : List α} {ys : List β} {y : β}
    (h : List.Forall₂ R xs ys) (hy : y ∈ ys) : ∃ x ∈ xs, R x y := by
  induction h with
  | nil => cases hy
  | cons hhere _ ih =>
    rcases List.mem_cons.1 hy with rfl | hy
    · exact ⟨_, List.mem_cons_self, hhere⟩
    · obtain ⟨x, hx, hxy⟩ := ih hy
      exact ⟨x, List.mem_cons_of_mem _ hx, hxy⟩

/-- Items that agree one by one in what two functions make of them. -/
theorem map_eq_map_of_forall₂ {α β γ : Type} {f : α → γ} {g : β → γ} {xs : List α} {ys : List β}
    (h : List.Forall₂ (fun x y => f x = g y) xs ys) : xs.map f = ys.map g := by
  rw [← List.forall₂_eq_eq_eq, List.forall₂_map_left_iff, List.forall₂_map_right_iff]
  exact h

/-- A sub-pattern that is ready for matching: its expression is well-formed, and its fields stay as
they are. -/
def SubPattern.IsReadyAs (s : SubPattern) (rule : Rule) : Prop :=
  Regex.ofText s.regexp = .ok rule.regex ∧ rule.fields = s.fields

theorem compile_eq_ok {index : Nat} {regexp : String} {regex : Regex} :
    compile index regexp = .ok regex ↔ Regex.ofText regexp = .ok regex := by
  unfold compile
  split
  · next h => simp [h]
  · next h => simp [h]
  · next h => simp [h]

/-- The number that sub-patterns have in messages does not matter to their rules. -/
theorem rulesFrom_eq_ok {index : Nat} {pattern : List SubPattern} {rules : List Rule} :
    rulesFrom index pattern = .ok rules ↔
      List.Forall₂ SubPattern.IsReadyAs pattern rules := by
  induction pattern generalizing index rules with
  | nil => simp [rulesFrom, eq_comm]
  | cons s pattern ih =>
    rw [List.forall₂_cons_left_iff]
    constructor
    · intro h
      obtain ⟨regex, hregex, h⟩ := Outcome.bind_eq_ok.1 h
      obtain ⟨rest, hrest, h⟩ := Outcome.bind_eq_ok.1 h
      cases h
      exact ⟨⟨regex, s.fields⟩, rest, ⟨compile_eq_ok.1 hregex, rfl⟩, ih.1 hrest, rfl⟩
    · rintro ⟨⟨regex, fields⟩, rest, ⟨hregex, hfields⟩, hrest, rfl⟩
      simp only at hregex hfields
      subst hfields
      rw [rulesFrom, compile_eq_ok.2 hregex, Outcome.ok_bind, ih.2 hrest]
      rfl

/-- Sub-patterns with well-formed expressions have rules. -/
theorem exists_rules_of_regex {pattern : List SubPattern}
    (h : ∀ s ∈ pattern, ∃ regex, Regex.ofText s.regexp = .ok regex) (index : Nat) :
    ∃ rules, rulesFrom index pattern = .ok rules := by
  induction pattern generalizing index with
  | nil => exact ⟨[], rfl⟩
  | cons s pattern ih =>
    obtain ⟨⟨regex, hregex⟩, hrest⟩ := List.forall_mem_cons.1 h
    obtain ⟨rules, hrules⟩ := ih hrest (index + 1)
    refine ⟨⟨regex, s.fields⟩ :: rules, ?_⟩
    rw [rulesFrom, compile_eq_ok.2 hregex, Outcome.ok_bind, hrules]
    rfl

/-- In a mode with a loop the last rule is the loop, and there are others before it. -/
theorem exists_rules {d : Description} {rules : List Rule} (hmode : d.mode = .ok .loop)
    (h : rulesFrom 0 d.pattern = .ok rules) :
    ∃ headers loop, rules = headers ++ [loop] ∧ headers ≠ [] := by
  obtain ⟨subHeaders, subLoop, hpattern, hne, -, -⟩ := mode_eq_loop_iff.1 hmode
  have hlen := (rulesFrom_eq_ok.1 h).length_eq
  have hpos := List.length_pos_iff.2 hne
  cases rules using List.reverseRecOn with
  | nil => simp [hpattern] at hlen
  | append_singleton headers loop =>
    refine ⟨headers, loop, rfl, ?_⟩
    rintro rfl
    simp only [hpattern, List.length_append, List.length_singleton, List.nil_append] at hlen
    omega

/-- The loop is the rule of the last sub-pattern. -/
theorem last_isReadyAs {pattern : List SubPattern} {s : SubPattern} {headers : List Rule}
    {loop : Rule} (h : rulesFrom 0 pattern = .ok (headers ++ [loop]))
    (hs : pattern.getLast? = some s) : s.IsReadyAs loop := by
  have hall := List.forall₂_reverse_iff.2 (rulesFrom_eq_ok.1 h)
  obtain ⟨front, rfl⟩ := List.getLast?_eq_some_iff.1 hs
  simp only [List.reverse_append, List.reverse_singleton, List.singleton_append] at hall
  exact (List.forall₂_cons.1 hall).1

theorem records_single {d : Description} {s : SubPattern} (h : d.pattern = [s]) (text : String) :
    d.records .single text = (do
      let regex ← compile 0 s.regexp
      singleRecords ⟨regex, s.fields⟩ d.severity (Text.lines text.toList)) := by
  simp only [Description.records, h]

theorem records_loop {d : Description} {headers : List Rule} {loop : Rule}
    (h : rulesFrom 0 d.pattern = .ok (headers ++ [loop])) (text : String) :
    d.records .loop text = loopRecords headers loop d.severity (Text.lines text.toList) := by
  simp [Description.records, h]

/-! ## Texts -/

theorem validateInput_text {text : String} (ht : text ≠ "") :
    validateInput (.text text) = .ok text := by
  simp [validateInput, ht]

/-- A matcher on a text: the matcher is checked and described, then its records are those of the
description. -/
theorem sift_text (source : Source) {text : String} (ht : text ≠ "") :
    sift source (.text text) = (do
      source.validate
      let d ← source.describe
      let mode ← d.mode
      d.records mode text) := by
  simp only [sift, Job.prepare, Job.records, validateInput_text ht, bind_assoc, pure_bind,
    Outcome.ok_bind]

/-- A matcher that has been checked and described: what it finds in an input depends on its
description. -/
theorem sift_of_described {source : Source} {d : Description} (hvalid : source.validate = .ok ())
    (hdescribe : source.describe = .ok d) (input : Value) : sift source input = (do
      let text ← validateInput input
      let mode ← d.mode
      d.records mode text) := by
  simp only [sift, Job.prepare, hvalid, hdescribe, Outcome.ok_bind, bind_assoc]
  rfl

/-- A matcher that has passed all stages before the first line: what it finds in an input depends
on its description. -/
theorem sift_of_ready {source : Source} {d : Description} {mode : Mode}
    (hvalid : source.validate = .ok ()) (hdescribe : source.describe = .ok d)
    (hmode : d.mode = .ok mode) (input : Value) :
    sift source input = validateInput input >>= d.records mode := by
  simp only [sift, Job.prepare, hvalid, hdescribe, Outcome.ok_bind, bind_assoc, hmode]
  rfl

/-- A matcher that finds records has passed all checks. -/
theorem exists_job_of_sift {source : Source} {input : Value} {records : List Record}
    (h : sift source input = .ok records) :
    ∃ d mode text, source.describe = .ok d ∧ d.mode = .ok mode ∧ input = .text text ∧
      d.records mode text = .ok records := by
  obtain ⟨job, hjob, h⟩ := Outcome.bind_eq_ok.1 h
  obtain ⟨⟨⟩, -, hjob⟩ := Outcome.bind_eq_ok.1 hjob
  obtain ⟨text, htext, hjob⟩ := Outcome.bind_eq_ok.1 hjob
  obtain ⟨d, hdescribe, hjob⟩ := Outcome.bind_eq_ok.1 hjob
  obtain ⟨mode, hmode, hjob⟩ := Outcome.bind_eq_ok.1 hjob
  cases hjob
  refine ⟨d, mode, text, hdescribe, hmode, ?_, h⟩
  unfold validateInput at htext
  split at htext
  · cases htext
  · split at htext
    · cases htext
    · cases htext
      rfl
  · cases htext

/-! ## A matcher of reports -/

/-- A report has a line with an equals sign for each file, and lines with a dash for what is said
about it. -/
def report : Description where
  owner := .text "report"
  pattern := [⟨"^= (.+)", [(.text "file", .int 1)], false⟩,
    ⟨"^- (.+)", [(.text "message", .int 1)], true⟩]
  severity := .null

/-- The matcher of reports as it stands in a document. -/
def reportValue : Value :=
  .map [(.text "owner", .text "report"),
    (.text "pattern", .list [
      .map [(.text "regexp", .text "^= (.+)"), (.text "file", .int 1)],
      .map [(.text "regexp", .text "^- (.+)"), (.text "message", .text "1"),
        (.text "loop", .bool true)]])]

theorem ofValue_reportValue : Description.ofValue reportValue = .ok report := by decide +kernel

end Matcher

end LogSift
