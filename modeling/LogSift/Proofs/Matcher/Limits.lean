import LogSift.Proofs.Matcher.Stages

/-!
# Limits of building

A sub-pattern in writing can have the form that is wanted and still not be built: its expression
runs into a limit of expressions, or it gives a group in digits that do not make a number. Errors
of this kind are not about the configuration.

* `compile_eq_error_iff`, `fieldsOf_eq_error_iff`: the errors of an expression and of fields, of
  which the first that cannot be read decides.
* `SubPattern.ofValue_eq_limit_iff`: the limits that the entries of a sub-pattern run into
  (`IsLimited`) are all of its errors that are not about the configuration.
* `family_of_validate`: the checks of a matcher have errors about the configuration only.
-/

namespace LogSift.Matcher

/-! ## Expressions -/

/-- Whether an expression is refused although it is well-formed. -/
def IsExpressionLimit (e : Regex.Error) : Prop := ∀ cause place, e ≠ .invalid cause place

theorem compile_eq_error_iff {index : Nat} {regexp : String} {e : Error} :
    compile index regexp = .error e ↔
      (∃ cause place, Regex.ofText regexp = .error (.invalid cause place) ∧
        e = .regexpInvalid index cause place) ∨
      ∃ limit, Regex.ofText regexp = .error limit ∧ IsExpressionLimit limit ∧
        e = .expression limit := by
  unfold compile
  split
  · next h => simp [h]
  · next cause place h => simp [h, IsExpressionLimit, eq_comm]
  · next limit hlimit h =>
    have hkind : IsExpressionLimit limit := hlimit
    constructor
    · intro he
      cases he
      exact .inr ⟨limit, h, hkind, rfl⟩
    · rintro (⟨cause, place, hinvalid, -⟩ | ⟨other, hother, -, rfl⟩)
      · cases h.symm.trans hinvalid
        exact absurd rfl (hkind cause place)
      · cases h.symm.trans hother
        rfl

theorem family_of_isExpressionLimit {e : Regex.Error} (h : IsExpressionLimit e) :
    (Error.expression e).family ≠ .configuration := by
  cases e with
  | invalid cause place => exact absurd rfl (h cause place)
  | _ => simp [Error.family, expressionFamily]

/-! ## Fields -/

theorem groupOf_eq_error_iff {v : Value} {e : Error} :
    groupOf v = .error e ↔ ∃ s fault, v = .text s ∧ isDigits s = true ∧
      Number.readInteger 10 s = .error fault ∧ e = .integer fault := by
  constructor
  · intro h
    unfold groupOf at h
    split at h
    · next s =>
      split at h
      · next hdigits =>
        split at h
        · cases h
        · next fault hread =>
          cases h
          exact ⟨s, fault, rfl, hdigits, hread, rfl⟩
      · cases h
    · cases h
  · rintro ⟨s, fault, rfl, hdigits, hread, rfl⟩
    simp only [groupOf, if_pos hdigits, hread]

/-- The first field whose group cannot be read decides. -/
theorem fieldsOf_eq_error_iff {entries : Entries Value} {e : Error} :
    fieldsOf entries = .error e ↔ ∃ before key v after, entries = before ++ (key, v) :: after ∧
      (∀ b ∈ before, isReserved b.1 = true ∨ ∃ group, groupOf b.2 = .ok group) ∧
      isReserved key = false ∧ groupOf v = .error e := by
  induction entries with
  | nil => simp [fieldsOf]
  | cons entry entries ih =>
    obtain ⟨key, v⟩ := entry
    rw [fieldsOf]
    constructor
    · intro h
      split at h
      · -- A reserved entry is passed over, and stands before the field that decides.
        next hkey =>
        obtain ⟨before, name, w, after, rfl, hbefore, hname, hw⟩ := ih.1 h
        exact ⟨(key, v) :: before, name, w, after, rfl,
          List.forall_mem_cons.2 ⟨.inl hkey, hbefore⟩, hname, hw⟩
      · next hkey =>
        rcases Outcome.bind_eq_error.1 h with h | ⟨group, hgroup, h⟩
        · exact ⟨[], key, v, entries, rfl, by simp, Bool.eq_false_iff.2 hkey, h⟩
        · rcases Outcome.bind_eq_error.1 h with h | ⟨more, -, h⟩
          · obtain ⟨before, name, w, after, rfl, hbefore, hname, hw⟩ := ih.1 h
            exact ⟨(key, v) :: before, name, w, after, rfl,
              List.forall_mem_cons.2 ⟨.inr ⟨group, hgroup⟩, hbefore⟩, hname, hw⟩
          · cases h
    · rintro ⟨before, name, w, after, heq, hbefore, hname, hw⟩
      cases before with
      | nil =>
        cases heq
        rw [if_neg (by simp [hname]), hw]
        rfl
      | cons b before =>
        cases heq
        obtain ⟨hkey, hbefore⟩ := List.forall_mem_cons.1 hbefore
        have hmore := ih.2 ⟨before, name, w, after, rfl, hbefore, hname, hw⟩
        split
        · exact hmore
        · next hopen =>
          obtain ⟨group, hgroup⟩ := hkey.resolve_left hopen
          rw [hgroup, Outcome.ok_bind, hmore]
          rfl

/-! ## Sub-patterns -/

/-- How the entries of a map that has a text for its expression fail to make a sub-pattern: the
expression is well-formed and runs into a limit, or it can be used and the first group in digits
that is no number is that of a field. -/
inductive IsLimited (entries : Entries Value) : Error → Prop
  | expression {regexp : String} {limit : Regex.Error} :
    Entries.field? "regexp" entries = some (.text regexp) →
    Regex.ofText regexp = .error limit → IsExpressionLimit limit →
    IsLimited entries (.expression limit)
  | group {regexp digits : String} {regex : Regex} {before after : Entries Value} {key : Scalar}
      {fault : Number.IntegerFault} :
    Entries.field? "regexp" entries = some (.text regexp) → Regex.ofText regexp = .ok regex →
    entries = before ++ (key, .text digits) :: after →
    (∀ b ∈ before, isReserved b.1 = true ∨ ∃ group, groupOf b.2 = .ok group) →
    isReserved key = false → isDigits digits = true →
    Number.readInteger 10 digits = .error fault → IsLimited entries (.integer fault)

theorem family_of_isLimited {entries : Entries Value} {e : Error} (h : IsLimited entries e) :
    e.family ≠ .configuration := by
  cases h with
  | expression _ _ hlimit => exact family_of_isExpressionLimit hlimit
  | group => simp [Error.family]

/-- A sub-pattern runs into a limit just if its error is not about the configuration. -/
theorem SubPattern.ofValue_eq_limit_iff {index : Nat} {v : Value} {e : Error} :
    SubPattern.ofValue index v = .error e ∧ e.family ≠ .configuration ↔
      ∃ entries, v = .map entries ∧ IsLimited entries e := by
  constructor
  · rintro ⟨h, hfamily⟩
    unfold SubPattern.ofValue at h
    split at h
    · next entries =>
      refine ⟨entries, rfl, ?_⟩
      split at h
      · next regexp hregexp =>
        rcases Outcome.bind_eq_error.1 h with h | ⟨regex, hregex, h⟩
        · rcases compile_eq_error_iff.1 h with ⟨cause, place, -, rfl⟩ | ⟨limit, hlimit, hkind, rfl⟩
          · exact absurd rfl hfamily
          · exact .expression hregexp hlimit hkind
        · rcases Outcome.bind_eq_error.1 h with h | ⟨fields, -, h⟩
          · obtain ⟨before, key, w, after, heq, hbefore, hkey, hw⟩ := fieldsOf_eq_error_iff.1 h
            obtain ⟨digits, fault, rfl, hdigits, hread, rfl⟩ := groupOf_eq_error_iff.1 hw
            exact .group hregexp (compile_eq_ok.1 hregex) heq hbefore hkey hdigits hread
          · cases h
      · cases h
        exact absurd rfl hfamily
    · cases h
      exact absurd rfl hfamily
  · rintro ⟨entries, rfl, h⟩
    refine ⟨?_, family_of_isLimited h⟩
    cases h with
    | expression hregexp hlimit hkind =>
      rw [SubPattern.ofValue, hregexp]
      dsimp only
      rw [compile_eq_error_iff.2 (.inr ⟨_, hlimit, hkind, rfl⟩)]
      rfl
    | group hregexp hregex heq hbefore hkey hdigits hread =>
      have hfields := fieldsOf_eq_error_iff.2
        ⟨_, _, _, _, heq, hbefore, hkey, groupOf_eq_error_iff.2 ⟨_, _, rfl, hdigits, hread, rfl⟩⟩
      rw [SubPattern.ofValue, hregexp]
      dsimp only
      rw [compile_eq_ok.2 hregex, Outcome.ok_bind, hfields]
      rfl

/-! ## Checks -/

/-- The checks of a matcher are about the configuration. -/
theorem family_of_validate {source : Source} {e : Error} (h : source.validate = .error e) :
    e.family = .configuration := by
  unfold Source.validate at h
  split at h
  · cases h
    rfl
  · split at h
    · cases h
      rfl
    · split at h
      · cases h
        rfl
      · cases h
        rfl
      · cases h
        rfl
      · cases h

end LogSift.Matcher
