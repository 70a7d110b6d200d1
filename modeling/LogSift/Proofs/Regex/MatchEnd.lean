import LogSift.Regex.Remove

/-!
# Where matches end

Without groups, references and lookarounds, where the match of a node ends depends on the place
where it begins, and not on what earlier choices have left behind. `Continuation.EndsAs` says so of
what has to match from a place on, and has one rule for each kind of node.

Backtracking has no part in the rule for a repetition (`endsAs_span`): where nothing that follows
can begin with a character that the repetition takes, only the longest run of them counts.

* `Cursor.skip_none`: the place behind the longest run of characters that pass a test.
* `end?_matchAt`, `matchLength?_of_endsAs`: matches of a node from where they end.
-/

namespace LogSift.Regex

/-! ## Places -/

namespace Cursor

/-- The place behind the next character, if there is one that passes a test. -/
def step? (x : CharTest) (c : Cursor) : Option Cursor :=
  match c.after with
  | [] => none
  | y :: after => if x.holds y then some ⟨y :: c.before, after, c.offset + 1⟩ else none

theorem skip_none (p : Char → Bool) (c : Cursor) :
    c.skip p none = ⟨(c.after.takeWhile p).reverse ++ c.before, c.after.dropWhile p,
      c.offset + (c.after.takeWhile p).length⟩ := by
  obtain ⟨before, after, offset⟩ := c
  unfold skip
  dsimp only
  induction after generalizing before offset with
  | nil => rfl
  | cons x after ih =>
    rw [skip.go]
    by_cases hx : p x = true
    · simp [hx, ih, Nat.add_comm, Nat.add_left_comm]
    · simp [hx]

end Cursor

/-! ## Ends -/

/-- Where a success ends. -/
def Attempt.end? : Attempt → Option Cursor
  | .success t => some t.place
  | .failure _ => none

namespace Attempt

@[simp] theorem end?_success (t : Trail) : (success t).end? = some t.place := rfl

@[simp] theorem end?_failure (t : Trail) : (failure t).end? = none := rfl

theorem end?_orElse {next : Trail → Attempt} {e : Option Cursor} (h : ∀ t, (next t).end? = e)
    (a : Attempt) : (a.orElse next).end? = a.end?.or e := by
  cases a with
  | success t => rfl
  | failure t => exact h t

@[simp] theorem end?_onFailure (a : Attempt) (f : Trail → Trail) :
    (a.onFailure f).end? = a.end? := by
  cases a with
  | success t => rfl
  | failure t => rfl

end Attempt

namespace Continuation

/-- Whether what has to match from a place on ends as a function says, whatever earlier choices have
left behind. -/
def EndsAs (k : Continuation) (e : Cursor → Option Cursor) : Prop := ∀ c t, (k c t).end? = e c

end Continuation

variable {k : Continuation} {e : Cursor → Option Cursor} {repeating : Bool}

theorem endsAs_stop : Continuation.EndsAs .stop some := fun _ _ => rfl

theorem endsAs_never (repeating : Bool) :
    Continuation.EndsAs (fun c t => Node.never.run repeating c t k) fun _ => none :=
  fun _ _ => rfl

theorem endsAs_test (repeating : Bool) (x : CharTest) (hk : k.EndsAs e) :
    Continuation.EndsAs (fun c t => (Node.test x).run repeating c t k) fun c =>
      (c.step? x).bind e := by
  rintro ⟨before, after, offset⟩ t
  cases after with
  | nil => rfl
  | cons y after =>
    by_cases hy : x.holds y = true
    · simp [Node.run, Cursor.step?, hy, hk _ t]
    · simp [Node.run, Cursor.step?, hy]

theorem endsAs_alt {left right : Node} {e' : Cursor → Option Cursor} (ahead : Option CharTest)
    (hleft : Continuation.EndsAs (fun c t => left.run repeating c t k) e)
    (hright : Continuation.EndsAs (fun c t => right.run repeating c t k) e') :
    Continuation.EndsAs (fun c t => (Node.alt ahead left right).run repeating c t k) fun c =>
      if ahead.all c.sees then (e c).or (e' c) else e' c := by
  intro c t
  simp only [Node.run]
  split
  · rw [Attempt.end?_orElse fun f => hright c _]
    exact congrArg (Option.or · _) (hleft c _)
  · exact hright c t

/-! ## Repetitions -/

variable {s : Span} {x : CharTest}

/-- Going back over characters of the repetition comes to nothing. -/
theorem end?_downFrom (hk : k.EndsAs e) (hahead : s.ahead = none)
    (hstop : ∀ c : Cursor, c.sees x = true → e c = none) (saved : Marks) {spare : Nat} {c : Cursor}
    (hback : ∀ y ∈ c.before.take spare, x.holds y = true) (t : Trail) :
    (s.downFrom repeating saved k spare c t).end? = e c := by
  have hgo : ∀ (c : Cursor) t, (s.goOn repeating saved k c t).end? = e c := by
    intro c t
    simp [Span.goOn, hahead, hk c]
  induction spare generalizing c t with
  | zero => exact hgo c t
  | succ spare ih =>
    obtain ⟨before, after, offset⟩ := c
    cases before with
    | nil => rw [Span.downFrom, Attempt.end?_orElse (e := none) fun _ => rfl, hgo, Option.or_none]
    | cons y before =>
      rw [List.take_succ_cons, List.forall_mem_cons] at hback
      have hsees : Cursor.sees ⟨before, y :: after, offset - 1⟩ x = true := by
        simp [Cursor.sees, hback.1]
      have hless : ∀ t,
          (s.downFrom repeating saved k spare ⟨before, y :: after, offset - 1⟩ t).end? = none :=
        fun t => (ih hback.2 t).trans (hstop _ hsees)
      rw [Span.downFrom, Attempt.end?_orElse hless, hgo, Option.or_none]

/-- A repetition of any number of characters takes the longest run of them, where what follows
cannot begin with one of them. -/
theorem endsAs_span (repeating : Bool) (hk : k.EndsAs e)
    (hstop : ∀ c : Cursor, c.sees x = true → e c = none) :
    Continuation.EndsAs
      (fun c t => (Node.span .greedy ⟨0, none, x, none⟩).run repeating c t k) fun c =>
      e (c.skip x.holds none) := by
  intro c t
  have hcount : (c.skip x.holds none).offset - c.offset = (c.after.takeWhile x.holds).length := by
    rw [Cursor.skip_none]
    exact Nat.add_sub_cancel_left _ _
  have hback : ∀ y ∈ (c.skip x.holds none).before.take
      ((c.skip x.holds none).offset - c.offset), x.holds y = true := by
    intro y hy
    rw [hcount, Cursor.skip_none] at hy
    dsimp only at hy
    rw [← List.length_reverse, List.take_left, List.mem_reverse] at hy
    exact List.all_eq_true.1 List.all_takeWhile y hy
  simp only [Node.run, Span.run, Span.afterCount, Cursor.hasAhead, decide_true, Bool.true_or,
    Nat.not_lt_zero, Nat.sub_zero, if_true, if_false]
  exact end?_downFrom hk rfl hstop _ hback _

/-! ## Nodes -/

variable {n : Node} {c : Cursor}

theorem end?_matchAt (h : Continuation.EndsAs (fun c t => n.run false c t .stop) e) (c : Cursor) :
    (n.matchAt? c).map Trail.place = e c := by
  rw [← h c ⟨c, []⟩, Node.matchAt?]
  dsimp only
  cases n.run false c ⟨c, []⟩ .stop with
  | success t => rfl
  | failure t => rfl

theorem matchLength?_of_endsAs (h : Continuation.EndsAs (fun c t => n.run false c t .stop) e)
    (c : Cursor) : matchLength? n c = (e c).map fun d => d.offset - c.offset := by
  rw [← end?_matchAt h c, matchLength?, Option.map_map]
  rfl

end LogSift.Regex
