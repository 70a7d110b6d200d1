/-!
# Outcomes

An outcome is a result or an error. Of steps that follow each other the first that fails gives the
error.

* `bind_eq_ok`, `map_eq_ok`: two steps give a result if each of them does. `bind_eq_error`: their
  error is that of the first, or of the second after a result of the first.
* `error?`: the error of an outcome, if it has one. `error?_bind`: the error of two steps of which
  the second fails in the same way after any result of the first.
* `GoesOn`: how the outcome of a run goes on from that of its beginning.
* `Related`: two outcomes with the same error, or with related results. Two runs are related if
  their steps are (`Related.bind`).
* `mapBoth`: the outcome with another error or result. Steps one after another change theirs if each
  of them does (`mapBoth_bind`).
-/

namespace LogSift.Outcome

variable {ε α β : Type} {x : Except ε α} {f : α → Except ε β}

@[simp] theorem ok_bind (a : α) : (Except.ok a : Except ε α) >>= f = f a := rfl

@[simp] theorem error_bind (e : ε) : (Except.error e : Except ε α) >>= f = .error e := rfl

@[simp] theorem map_ok (g : α → β) (a : α) : g <$> (Except.ok a : Except ε α) = .ok (g a) := rfl

@[simp] theorem map_error (g : α → β) (e : ε) :
    g <$> (Except.error e : Except ε α) = .error e := rfl

theorem bind_eq_ok {b : β} : x >>= f = .ok b ↔ ∃ a, x = .ok a ∧ f a = .ok b := by
  cases x with
  | error e => simp
  | ok a => simp

theorem bind_eq_error {e : ε} :
    x >>= f = .error e ↔ x = .error e ∨ ∃ a, x = .ok a ∧ f a = .error e := by
  cases x with
  | error e' => simp
  | ok a => simp

theorem map_eq_ok {g : α → β} {b : β} : g <$> x = .ok b ↔ ∃ a, x = .ok a ∧ g a = b := by
  cases x with
  | error e => simp
  | ok a => simp

theorem map_eq_error {g : α → β} {e : ε} : g <$> x = .error e ↔ x = .error e := by
  cases x with
  | error e' => simp
  | ok a => simp

@[simp] theorem mapError_ok {ε' : Type} (g : ε → ε') (a : α) :
    (Except.ok a : Except ε α).mapError g = .ok a := rfl

@[simp] theorem mapError_error {ε' : Type} (g : ε → ε') (e : ε) :
    (Except.error e : Except ε α).mapError g = .error (g e) := rfl

theorem mapError_eq_ok {ε' : Type} {g : ε → ε'} {a : α} : x.mapError g = .ok a ↔ x = .ok a := by
  cases x with
  | error e => simp
  | ok b => simp

theorem mapError_eq_error {ε' : Type} {g : ε → ε'} {e' : ε'} :
    x.mapError g = .error e' ↔ ∃ e, x = .error e ∧ g e = e' := by
  cases x with
  | error e => simp
  | ok b => simp

theorem mapError_bind {ε' : Type} (g : ε → ε') :
    (x >>= f).mapError g = x.mapError g >>= fun a => (f a).mapError g := by
  cases x with
  | error e => rfl
  | ok a => rfl

/-- Lists that come from the same first step one after the other. -/
theorem bind_append {f g h : α → Except ε (List β)}
    (hs : ∀ a, x = .ok a → h a = do return (← f a) ++ (← g a)) :
    x >>= h = do return (← x >>= f) ++ (← x >>= g) := by
  cases x with
  | error e => rfl
  | ok a => exact hs a rfl

/-- The error of an outcome. -/
def error? : Except ε α → Option ε
  | .ok _ => none
  | .error e => some e

@[simp] theorem error?_ok (a : α) : error? (.ok a : Except ε α) = none := rfl

@[simp] theorem error?_pure (a : α) : error? (pure a : Except ε α) = none := rfl

@[simp] theorem error?_error (e : ε) : error? (.error e : Except ε α) = some e := rfl

theorem error?_eq_some {e : ε} : error? x = some e ↔ x = .error e := by
  cases x with
  | error e => simp
  | ok a => simp

theorem error?_eq_none : error? x = none ↔ ∃ a, x = .ok a := by
  cases x with
  | error e => simp
  | ok a => simp

@[simp] theorem error?_map (g : α → β) : error? (g <$> x) = error? x := by
  cases x <;> rfl

theorem error?_bind {later : Option ε} (h : ∀ a, x = .ok a → error? (f a) = later) :
    error? (x >>= f) = (error? x).or later := by
  cases x with
  | error e => rfl
  | ok a => exact h a rfl

/-- How the outcome of a longer run goes on from that of its beginning: the error is the same, and
results come after those of the beginning. -/
structure GoesOn (before after : Except ε (List α)) : Prop where
  error : ∀ e, before = .error e → after = .error e
  ok : ∀ results, after = .ok results → ∃ first, before = .ok first ∧ first <+: results

theorem GoesOn.of_error {e : ε} {before after : Except ε (List α)} (hbefore : before = .error e)
    (hafter : after = .error e) : GoesOn before after := by
  subst hbefore hafter
  exact ⟨fun _ h => h, fun _ h => nomatch h⟩

theorem GoesOn.bind {f g : α → Except ε (List β)} (h : ∀ a, x = .ok a → GoesOn (f a) (g a)) :
    GoesOn (x >>= f) (x >>= g) := by
  cases x with
  | error e => exact .of_error rfl rfl
  | ok a => exact h a rfl

/-- A run of which the state after the beginning holds the results so far. -/
theorem goesOn_bind {σ : Type} (x : Except ε σ) (results : σ → List α)
    (more : σ → Except ε (List α)) :
    GoesOn (results <$> x) (x >>= fun s => (results s ++ ·) <$> more s) := by
  cases x with
  | error e => exact ⟨fun _ h => h, fun _ h => nomatch h⟩
  | ok s =>
    refine ⟨fun _ h => (nomatch h), fun all h => ⟨results s, rfl, ?_⟩⟩
    obtain ⟨later, -, rfl⟩ := map_eq_ok.1 h
    exact List.prefix_append _ _

/-- Whether two outcomes have the same error, or results that are related. -/
inductive Related (R : α → β → Prop) : Except ε α → Except ε β → Prop
  | error (e : ε) : Related R (.error e) (.error e)
  | ok {a : α} {b : β} (h : R a b) : Related R (.ok a) (.ok b)

namespace Related

variable {R : α → β → Prop} {y : Except ε β}

theorem refl (x : Except ε α) : Related Eq x x := by
  cases x with
  | error e => exact .error e
  | ok a => exact .ok rfl

theorem bind {γ δ : Type} {S : γ → δ → Prop} {f : α → Except ε γ} {g : β → Except ε δ}
    (h : Related R x y) (hfg : ∀ a b, R a b → Related S (f a) (g b)) :
    Related S (x >>= f) (y >>= g) := by
  cases h with
  | error e => exact .error e
  | ok h => exact hfg _ _ h

/-- Runs with the same first step. -/
theorem bind_same {γ δ : Type} {S : γ → δ → Prop} {f : α → Except ε γ} {g : α → Except ε δ}
    (h : ∀ a, x = .ok a → Related S (f a) (g a)) : Related S (x >>= f) (x >>= g) := by
  cases x with
  | error e => exact .error e
  | ok a => exact h a rfl

theorem map {γ δ : Type} {S : γ → δ → Prop} {f : α → γ} {g : β → δ} (h : Related R x y)
    (hfg : ∀ a b, R a b → S (f a) (g b)) : Related S (f <$> x) (g <$> y) := by
  cases h with
  | error e => exact .error e
  | ok h => exact .ok (hfg _ _ h)

end Related

/-- The outcome with another error or another result in the place of its own. -/
def mapBoth {ε' : Type} (g : ε → ε') (f : α → β) : Except ε α → Except ε' β
  | .ok a => .ok (f a)
  | .error e => .error (g e)

section

variable {ε' γ δ : Type} {g : ε → ε'} {f : α → β}

@[simp] theorem mapBoth_ok (a : α) : mapBoth g f (.ok a) = .ok (f a) := rfl

@[simp] theorem mapBoth_error (e : ε) : mapBoth g f (.error e) = .error (g e) := rfl

theorem mapBoth_map {h : β → γ} {h' : δ → γ} {f' : α → δ} (hf : ∀ a, h' (f' a) = h (f a)) :
    h' <$> mapBoth g f' x = mapBoth g h (f <$> x) := by
  cases x with
  | error e => rfl
  | ok a => exact congrArg Except.ok (hf a)

theorem mapBoth_bind {h : γ → δ} {k : α → Except ε γ} {k' : β → Except ε' δ}
    (hk : ∀ a, x = .ok a → k' (f a) = mapBoth g h (k a)) :
    mapBoth g f x >>= k' = mapBoth g h (x >>= k) := by
  cases x with
  | error e => rfl
  | ok a => exact hk a rfl

end

end LogSift.Outcome
