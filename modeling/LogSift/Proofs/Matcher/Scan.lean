import LogSift.Matcher.Run

/-!
# Line by line

The loop matcher takes lines in cycles: a header, then a run of details that ends where the next
header stands. Here it is a machine with one step for each line.

* `loopStep`: what one line does. The state is the context, none before the first line.
* `loopScan`: the steps of lines one after another; `loopScan_append` cuts it at any line.
* `scanRecords_goesOn`: more lines never change what the lines before them gave.
* `loopRecords_eq`: the cycles give the records of the scan. A line that ends a run of details is
  to the context before it what the first line is to none (`loopStep_eq_start`), so nothing of the
  cycle before is left in the next one.
* `singleRecords_append`: without a loop lines have nothing to do with each other.
-/

namespace LogSift.Matcher

/-! ## Single expressions -/

theorem singleRecords_append (rule : Rule) (severity : Value) (xs ys : List (List Char)) :
    singleRecords rule severity (xs ++ ys) = do
      let records ← singleRecords rule severity xs
      let more ← singleRecords rule severity ys
      return records ++ more := by
  induction xs with
  | nil => simp [singleRecords]
  | cons line xs ih =>
    simp only [List.cons_append, singleRecords, ih, bind_assoc, pure_bind, List.append_assoc]

theorem singleRecords_goesOn (rule : Rule) (severity : Value) (xs ys : List (List Char)) :
    Outcome.GoesOn (singleRecords rule severity xs) (singleRecords rule severity (xs ++ ys)) := by
  have h := Outcome.goesOn_bind (singleRecords rule severity xs) id
    fun _ => singleRecords rule severity ys
  rw [id_map] at h
  simpa [singleRecords_append] using h

/-! ## Headers and a loop -/

variable (headers : List Rule) (loop : Rule) (severity : Value)

/-- What a line does to the context, and the records that it gives. Before the first line there is
no context. -/
def loopStep (context : Option Record) (line : List Char) :
    Except Error (Option Record × List Record) :=
  let start : Except Error (Option Record × List Record) := do
    return (some (← contextOf headers severity line), [])
  match context with
  | none => start
  | some context =>
    if line.isEmpty then .ok (some context, [])
    else do
      match ← loop.extract severity line with
      | none => start
      | some fields => return (some context, [Entries.merge context fields])

/-- What lines do to the context one after another, and the records that they give. -/
def loopScan (context : Option Record) : List (List Char) →
    Except Error (Option Record × List Record)
  | [] => .ok (context, [])
  | line :: rest => do
    let (context, found) ← loopStep headers loop severity context line
    let (context, more) ← loopScan context rest
    return (context, found ++ more)

variable {headers loop severity}

theorem loopScan_append (context : Option Record) (xs ys : List (List Char)) :
    loopScan headers loop severity context (xs ++ ys) = do
      let (context, records) ← loopScan headers loop severity context xs
      let (context, more) ← loopScan headers loop severity context ys
      return (context, records ++ more) := by
  induction xs generalizing context with
  | nil => simp [loopScan]
  | cons line xs ih => simp [loopScan, ih]

/-- What a step can be: a header takes the place of the context, an empty line is passed over, a
detail gives a record. -/
theorem loopStep_cases {context next : Option Record} {line : List Char} {found : List Record}
    (h : loopStep headers loop severity context line = .ok (next, found)) :
    (∃ new, (context = none ∨ line ≠ [] ∧ loop.extract severity line = .ok none) ∧
      contextOf headers severity line = .ok new ∧ next = some new ∧ found = []) ∨
    (∃ old, context = some old ∧ line = [] ∧ next = some old ∧ found = []) ∨
    (∃ old fields, context = some old ∧ line ≠ [] ∧
      loop.extract severity line = .ok (some fields) ∧ next = some old ∧
      found = [Entries.merge old fields]) := by
  cases context with
  | none =>
    obtain ⟨new, hnew, h⟩ := Outcome.bind_eq_ok.1 h
    cases h
    exact .inl ⟨new, .inl rfl, hnew, rfl, rfl⟩
  | some old =>
    by_cases hline : line = []
    · subst hline
      cases h
      exact .inr (.inl ⟨old, rfl, rfl, rfl, rfl⟩)
    · simp only [loopStep, List.isEmpty_iff, hline, if_false] at h
      obtain ⟨read, hread, h⟩ := Outcome.bind_eq_ok.1 h
      cases read with
      | none =>
        obtain ⟨new, hnew, h⟩ := Outcome.bind_eq_ok.1 h
        cases h
        exact .inl ⟨new, .inr ⟨hline, hread⟩, hnew, rfl, rfl⟩
      | some fields =>
        cases h
        exact .inr (.inr ⟨old, fields, rfl, hline, hread, rfl, rfl⟩)

theorem exists_context_of_loopStep {context : Option Record} {line : List Char}
    {step : Option Record × List Record}
    (h : loopStep headers loop severity context line = .ok step) : ∃ next, step.1 = some next := by
  rcases loopStep_cases h with ⟨new, -, -, h, -⟩ | ⟨old, -, -, h, -⟩ | ⟨old, -, -, -, -, h, -⟩
  · exact ⟨new, h⟩
  · exact ⟨old, h⟩
  · exact ⟨old, h⟩

/-- A line that is neither empty nor a detail does the same whatever was before it. -/
theorem loopStep_eq_start {line : List Char} (hne : line ≠ [])
    (hloop : loop.extract severity line = .ok none) (context : Option Record) :
    loopStep headers loop severity context line = loopStep headers loop severity none line := by
  cases context with
  | none => rfl
  | some context => simp [loopStep, hne, hloop]

/-- A scan that begins at a header does not look at the context before it. -/
theorem loopScan_eq_start {line : List Char} (hne : line ≠ [])
    (hloop : loop.extract severity line = .ok none) (context : Option Record)
    (rest : List (List Char)) :
    loopScan headers loop severity context (line :: rest) =
      loopScan headers loop severity none (line :: rest) := by
  simp only [loopScan, loopStep_eq_start hne hloop context]

/-- The records of a scan. -/
def scanRecords (headers : List Rule) (loop : Rule) (severity : Value) (context : Option Record)
    (lines : List (List Char)) : Except Error (List Record) :=
  Prod.snd <$> loopScan headers loop severity context lines

theorem scanRecords_start (first : List Char) (rest : List (List Char)) :
    scanRecords headers loop severity none (first :: rest) = (do
      let context ← contextOf headers severity first
      scanRecords headers loop severity (some context) rest) := by
  simp [scanRecords, loopScan, loopStep]

/-- A scan cut where a header stands: the records of the two parts have nothing to do with each
other. -/
theorem scanRecords_append {context : Option Record} {xs rest : List (List Char)}
    {line : List Char} (hne : line ≠ []) (hloop : loop.extract severity line = .ok none) :
    scanRecords headers loop severity context (xs ++ line :: rest) = do
      let records ← scanRecords headers loop severity context xs
      let more ← scanRecords headers loop severity none (line :: rest)
      return records ++ more := by
  have hstart (context : Option Record) :
      loopScan headers loop severity context (line :: rest) =
        loopScan headers loop severity none (line :: rest) :=
    loopScan_eq_start hne hloop context rest
  simp [scanRecords, loopScan_append, hstart]

/-- A scan goes on from the scan of the lines at its beginning: it has the same error, or the same
records first. -/
theorem scanRecords_goesOn (context : Option Record) (xs ys : List (List Char)) :
    Outcome.GoesOn (scanRecords headers loop severity context xs)
      (scanRecords headers loop severity context (xs ++ ys)) := by
  have happend : scanRecords headers loop severity context (xs ++ ys) =
      loopScan headers loop severity context xs >>= fun scan =>
        (scan.2 ++ ·) <$> scanRecords headers loop severity scan.1 ys := by
    simp [scanRecords, loopScan_append]
  rw [happend]
  exact Outcome.goesOn_bind _ Prod.snd _

/-- What is left after a run of details begins with a header. -/
theorem scanRecords_left {context : Record} {lines left : List (List Char)}
    {records : List Record} (h : detailRun loop severity context lines = .ok (records, left)) :
    scanRecords headers loop severity (some context) left =
      scanRecords headers loop severity none left := by
  induction lines generalizing records with
  | nil => cases h; rfl
  | cons line rest ih =>
    rw [detailRun] at h
    split at h
    · exact ih h
    · next hne =>
      obtain ⟨found, hfound, h⟩ := Outcome.bind_eq_ok.1 h
      cases found with
      | none =>
        cases h
        have hline : line ≠ [] := fun hnil => hne (by simp [hnil])
        simp only [scanRecords, loopScan_eq_start hline hfound (some context)]
      | some fields =>
        obtain ⟨run, hr, h⟩ := Outcome.bind_eq_ok.1 h
        cases h
        exact ih hr

/-- A scan after a header is a run of details and a scan of what is left. -/
theorem scanRecords_detailRun (context : Record) (lines : List (List Char)) :
    scanRecords headers loop severity (some context) lines = do
      let (records, left) ← detailRun loop severity context lines
      return records ++ (← scanRecords headers loop severity (some context) left) := by
  induction lines with
  | nil => rfl
  | cons line rest ih =>
    by_cases hline : line.isEmpty
    · have hskip : scanRecords headers loop severity (some context) (line :: rest) =
          scanRecords headers loop severity (some context) rest := by
        simp [scanRecords, loopScan, loopStep, hline]
      rw [hskip, ih]
      simp [detailRun, hline]
    · cases hfound : loop.extract severity line with
      | error e => simp [scanRecords, loopScan, loopStep, detailRun, hline, hfound]
      | ok found =>
        cases found with
        | none => simp [detailRun, hline, hfound]
        | some fields =>
          have hdetail : scanRecords headers loop severity (some context) (line :: rest) =
              (Entries.merge context fields :: ·) <$>
                scanRecords headers loop severity (some context) rest := by
            simp [scanRecords, loopScan, loopStep, hline, hfound]
          rw [hdetail, ih]
          simp [detailRun, hline, hfound]

/-- The cycles of headers and details give the records of the scan. -/
theorem loopRecords_eq (lines : List (List Char)) :
    loopRecords headers loop severity lines = scanRecords headers loop severity none lines := by
  induction h : lines.length using Nat.strongRecOn generalizing lines with
  | ind n ih =>
    cases lines with
    | nil => rw [loopRecords]; rfl
    | cons header rest =>
      rw [loopRecords, scanRecords_start]
      congr 1
      funext context
      rw [scanRecords_detailRun]
      split
      · next e he => rw [he]; rfl
      · next records left hrun =>
        have hlt : left.length < n := by
          have := length_le_of_detailRun hrun
          simp only [List.length_cons] at h
          omega
        rw [hrun, ih _ hlt left rfl]
        simp only [Outcome.ok_bind, scanRecords_left hrun]

end LogSift.Matcher
