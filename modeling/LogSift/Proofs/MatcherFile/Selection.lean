import LogSift.MatcherFile.Document
import LogSift.Outcome
import LogSift.Proofs.Entries

/-!
# Selecting a matcher

A matcher is selected by its owner or, when null asks for no owner, because it is the only one.
Owners may be repeated: an owner then selects the first of its matchers, and there is no error.

* `ownerTexts_eq_ok_iff`, `ownerTexts_eq_error_iff`: when the owners of matchers are texts, and
  which one is at fault if they are not.
* `selectOnly_eq_ok_iff`, `selectOwner_eq_ok_iff`: what is selected, without an owner and by it.
  `selectOnly_eq_error_iff`, `selectOwner_eq_error_iff`: why nothing is.
* `AsksFor`, `IsOnly`, `IsRepeated`: what an owner asks for, and how it stands among the matchers.
* `select_ends`: when a matcher is selected and which one, in these terms.
-/

namespace LogSift.MatcherFile

open Matcher (Description)

variable {matchers : List Description} {m : Description} {owners : List String} {owner : Value}

/-! ## Owners -/

theorem ownerTexts_eq_ok_iff {index : Nat} : ownerTexts index matchers = .ok owners ↔
    matchers.map Description.owner = owners.map Value.text := by
  induction matchers generalizing index owners with
  | nil =>
    cases owners with
    | nil => simp [ownerTexts]
    | cons owner owners => simp [ownerTexts]
  | cons m matchers ih =>
    rw [ownerTexts, List.map_cons]
    split
    · next s hs =>
      rw [hs]
      constructor
      · intro h
        obtain ⟨more, hmore, rfl⟩ := Outcome.map_eq_ok.1 h
        exact congrArg (Value.text s :: ·) (ih.1 hmore)
      · intro h
        cases owners with
        | nil => cases h
        | cons owner owners =>
          obtain ⟨hfirst, hmore⟩ := List.cons.inj h
          cases hfirst
          exact Outcome.map_eq_ok.2 ⟨owners, ih.2 hmore, rfl⟩
    · next hs =>
      constructor
      · intro h
        cases h
      · intro h
        cases owners with
        | nil => cases h
        | cons owner owners => exact absurd (List.cons.inj h).1 (hs owner)

/-- The first owner that is no text decides. -/
theorem ownerTexts_eq_error_iff {index : Nat} {e : DocumentError} :
    ownerTexts index matchers = .error e ↔ ∃ before m after, matchers = before ++ m :: after ∧
      (∀ b ∈ before, ∃ s, b.owner = .text s) ∧ (∀ s, m.owner ≠ .text s) ∧
      e = .ownerNotText (index + before.length) m.owner.fullKind := by
  induction matchers generalizing index with
  | nil => simp [ownerTexts]
  | cons m matchers ih =>
    rw [ownerTexts]
    split
    · next s hs =>
      constructor
      · intro h
        obtain ⟨before, bad, after, rfl, hbefore, hbad, rfl⟩ := ih.1 (Outcome.map_eq_error.1 h)
        refine ⟨m :: before, bad, after, rfl, List.forall_mem_cons.2 ⟨⟨s, hs⟩, hbefore⟩, hbad, ?_⟩
        rw [List.length_cons, Nat.add_right_comm, Nat.add_assoc]
      · rintro ⟨before, bad, after, heq, hbefore, hbad, rfl⟩
        cases before with
        | nil =>
          cases heq
          exact absurd hs (hbad s)
        | cons b before =>
          cases heq
          refine Outcome.map_eq_error.2 (ih.2 ⟨before, bad, after, rfl,
            (List.forall_mem_cons.1 hbefore).2, hbad, ?_⟩)
          rw [List.length_cons, Nat.add_right_comm, Nat.add_assoc]
    · next hs =>
      constructor
      · intro h
        cases h
        exact ⟨[], m, matchers, rfl, by simp, hs, rfl⟩
      · rintro ⟨before, bad, after, heq, hbefore, hbad, rfl⟩
        cases before with
        | nil =>
          cases heq
          rfl
        | cons b before =>
          cases heq
          obtain ⟨s, hb⟩ := (List.forall_mem_cons.1 hbefore).1
          exact absurd hb (hs s)

/-! ## What is selected -/

theorem selectOnly_eq_ok_iff : selectOnly matchers = .ok m ↔ matchers = [m] := by
  unfold selectOnly
  split
  · simp
  · next hne =>
    constructor
    · intro h
      obtain ⟨_, -, h⟩ := Outcome.bind_eq_ok.1 h
      cases h
    · exact fun h => absurd h (hne m)

theorem selectOnly_eq_error_iff {e : DocumentError}
    (howners : matchers.map Description.owner = owners.map Value.text) :
    selectOnly matchers = .error e ↔ (∀ m, matchers ≠ [m]) ∧ e = .several owners := by
  unfold selectOnly
  split
  · simp
  · next hne =>
    rw [ownerTexts_eq_ok_iff.2 howners, Outcome.ok_bind]
    constructor
    · intro h
      cases h
      exact ⟨hne, rfl⟩
    · rintro ⟨-, rfl⟩
      rfl

theorem selectOwner_eq_ok_iff :
    selectOwner matchers owner = .ok m ↔ matchers.find? (·.owner.equal owner) = some m := by
  unfold selectOwner
  split
  · next hfind => simp [hfind]
  · next hfind => simp [hfind]

theorem selectOwner_eq_error_iff {e : DocumentError} :
    selectOwner matchers owner = .error e ↔
      matchers.find? (·.owner.equal owner) = none ∧ e = .unknownOwner owner := by
  unfold selectOwner
  split
  · next hfind => simp [hfind]
  · next hfind => simp [hfind, eq_comm]

theorem select_null : select matchers .null = selectOnly matchers := rfl

theorem select_of_ne_null (h : owner ≠ .null) :
    select matchers owner = selectOwner matchers owner := by
  unfold select
  split
  · exact absurd rfl h
  · rfl

theorem mem_of_select (h : select matchers owner = .ok m) : m ∈ matchers := by
  by_cases hnull : owner = .null
  · rw [hnull, select_null, selectOnly_eq_ok_iff] at h
    simp [h]
  · rw [select_of_ne_null hnull, selectOwner_eq_ok_iff] at h
    exact List.mem_of_find?_eq_some h

/-! ## What is asked for -/

/-- Whether an owner asks for a matcher: the matcher has this owner, or none is asked for. -/
def AsksFor (owner : Value) (m : Description) : Prop := owner = .null ∨ m.owner = owner

/-- Whether a matcher is the first that an owner asks for, and these matchers are behind it. -/
def IsFirst (owner : Value) (matchers : List Description) (m : Description)
    (behind : List Description) : Prop :=
  AsksFor owner m ∧ ∃ before, matchers = before ++ m :: behind ∧ ∀ b ∈ before, ¬ AsksFor owner b

/-- Whether a matcher is the only one that an owner asks for. -/
def IsOnly (owner : Value) (matchers : List Description) (m : Description) : Prop :=
  ∃ behind, IsFirst owner matchers m behind ∧ ∀ b ∈ behind, ¬ AsksFor owner b

/-- Whether a matcher is the first of several that an owner asks for. -/
def IsRepeated (owner : Value) (matchers : List Description) (m : Description) : Prop :=
  ∃ behind, IsFirst owner matchers m behind ∧ ∃ b ∈ behind, AsksFor owner b

theorem asksFor_null (m : Description) : AsksFor .null m := .inl rfl

theorem exists_isFirst_iff :
    (∃ behind, IsFirst owner matchers m behind) ↔
      IsOnly owner matchers m ∨ IsRepeated owner matchers m := by
  constructor
  · rintro ⟨behind, h⟩
    by_cases hmore : ∃ b ∈ behind, AsksFor owner b
    · exact .inr ⟨behind, h, hmore⟩
    · exact .inl ⟨behind, h, fun b hb hasked => hmore ⟨b, hb, hasked⟩⟩
  · rintro (⟨behind, h, -⟩ | ⟨behind, h, -⟩)
    · exact ⟨behind, h⟩
    · exact ⟨behind, h⟩

/-- Null asks for every matcher. -/
theorem isOnly_null_iff : IsOnly .null matchers m ↔ matchers = [m] := by
  constructor
  · rintro ⟨behind, ⟨-, before, rfl, hbefore⟩, hbehind⟩
    rw [List.eq_nil_iff_forall_not_mem.2 fun b hb => hbefore b hb (asksFor_null b),
      List.eq_nil_iff_forall_not_mem.2 fun b hb => hbehind b hb (asksFor_null b)]
    rfl
  · rintro rfl
    exact ⟨[], ⟨asksFor_null m, [], rfl, by simp⟩, by simp⟩

/-- A text equals itself only. -/
theorem equal_text_iff {s : String} {v : Value} : (Value.text s).equal v = true ↔ v = .text s := by
  cases v with
  | scalar key => simp [Value.equal, Value.scalarEq, Scalar.sameKey_text_iff]
  | _ => simp [Value.equal]

/-- Matchers whose owners are texts are found by the owner that asks for them. -/
theorem equal_owner_iff (howners : matchers.map Description.owner = owners.map Value.text)
    (hnull : owner ≠ .null) (hm : m ∈ matchers) :
    m.owner.equal owner = true ↔ AsksFor owner m := by
  obtain ⟨s, -, hs⟩ := List.mem_map.1 (howners ▸ List.mem_map_of_mem hm)
  rw [← hs, equal_text_iff, AsksFor, ← hs, or_iff_right hnull, eq_comm]

theorem find?_owner_eq_some_iff
    (howners : matchers.map Description.owner = owners.map Value.text) (hnull : owner ≠ .null) :
    matchers.find? (·.owner.equal owner) = some m ↔ ∃ behind, IsFirst owner matchers m behind := by
  rw [List.find?_eq_some_iff_append]
  constructor
  · rintro ⟨hm, before, behind, rfl, hbefore⟩
    refine ⟨behind, (equal_owner_iff howners hnull (by simp)).1 hm, before, rfl, fun b hb => ?_⟩
    rw [← equal_owner_iff howners hnull (by simp [hb])]
    simpa using hbefore b hb
  · rintro ⟨behind, hm, before, rfl, hbefore⟩
    refine ⟨(equal_owner_iff howners hnull (by simp)).2 hm, before, behind, rfl, fun b hb => ?_⟩
    have hnot := hbefore b hb
    rw [← equal_owner_iff howners hnull (by simp [hb])] at hnot
    simpa using hnot

theorem find?_owner_eq_none_iff
    (howners : matchers.map Description.owner = owners.map Value.text) (hnull : owner ≠ .null) :
    matchers.find? (·.owner.equal owner) = none ↔ ∀ m ∈ matchers, ¬ AsksFor owner m := by
  rw [List.find?_eq_none]
  exact forall₂_congr fun m hm => not_congr (equal_owner_iff howners hnull hm)

/-- If no two owners are the same, an owner does not ask for several matchers. -/
theorem not_isRepeated_of_nodup (howners : matchers.map Description.owner = owners.map Value.text)
    (hnodup : owners.Nodup) (hnull : owner ≠ .null) : ¬ IsRepeated owner matchers m := by
  rintro ⟨behind, ⟨hm, before, rfl, -⟩, b, hb, hasked⟩
  have hdistinct : ((before ++ m :: behind).map Description.owner).Pairwise (· ≠ ·) := by
    rw [howners, List.pairwise_map]
    refine List.Pairwise.imp (fun hne hsame => ?_) hnodup
    cases hsame
    exact hne rfl
  rw [List.map_append, List.map_cons, List.pairwise_append, List.pairwise_cons] at hdistinct
  obtain ⟨-, ⟨hbehind, -⟩, -⟩ := hdistinct
  refine hbehind b.owner (List.mem_map_of_mem hb) ?_
  rw [hm.resolve_left hnull, hasked.resolve_left hnull]

/-! ## How selecting ends -/

/-- **Selecting.** Of matchers whose owners are texts one is selected if it is the only one that is
asked for, and in one case more: if it is the first of several that have the owner. If no two owners
are the same there is no such case. Nothing is selected if no owner is asked for and there is not
just one matcher, or if no matcher has the owner. -/
theorem select_ends (howners : matchers.map Description.owner = owners.map Value.text)
    (owner : Value) :
    (∀ m, select matchers owner = .ok m ↔
      IsOnly owner matchers m ∨ owner ≠ .null ∧ IsRepeated owner matchers m) ∧
    (owners.Nodup → ∀ m, select matchers owner = .ok m ↔ IsOnly owner matchers m) ∧
    ∀ e, select matchers owner = .error e ↔
      owner = .null ∧ (∀ m, ¬ IsOnly owner matchers m) ∧ e = .several owners ∨
      owner ≠ .null ∧ (∀ m ∈ matchers, ¬ AsksFor owner m) ∧ e = .unknownOwner owner := by
  have hok : ∀ m, select matchers owner = .ok m ↔
      IsOnly owner matchers m ∨ owner ≠ .null ∧ IsRepeated owner matchers m := by
    intro m
    by_cases hnull : owner = .null
    · simp [hnull, select_null, selectOnly_eq_ok_iff, isOnly_null_iff]
    · rw [select_of_ne_null hnull, selectOwner_eq_ok_iff, find?_owner_eq_some_iff howners hnull,
        exists_isFirst_iff, and_iff_right hnull]
  refine ⟨hok, fun hnodup m => ?_, fun e => ?_⟩
  · rw [hok, or_iff_left]
    rintro ⟨hnull, hrepeated⟩
    exact not_isRepeated_of_nodup howners hnodup hnull hrepeated
  · by_cases hnull : owner = .null
    · simp [hnull, select_null, selectOnly_eq_error_iff howners, isOnly_null_iff]
    · simp [hnull, select_of_ne_null hnull, selectOwner_eq_error_iff,
        find?_owner_eq_none_iff howners hnull]

/-- A matcher with an owner and an expression. -/
def named (owner regexp : String) : Description := ⟨.text owner, [⟨regexp, [], false⟩], .null⟩

/-- Of three matchers the one whose owner is not repeated is selected by it, and none is selected
without an owner. Of two matchers whose owners differ the one that is selected is the only one. -/
theorem select_ends_named :
    select [named "lint" "x", named "build" "y", named "lint" "z"] (.text "build") =
        .ok (named "build" "y") ∧
      select [named "lint" "x", named "build" "y", named "lint" "z"] .null =
        .error (.several ["lint", "build", "lint"]) ∧
      ["lint", "build"].Nodup ∧
        IsOnly (.text "lint") [named "lint" "x", named "build" "y"] (named "lint" "x") := by
  have hthree : [named "lint" "x", named "build" "y", named "lint" "z"].map Description.owner =
      ["lint", "build", "lint"].map Value.text := rfl
  have htwo : [named "lint" "x", named "build" "y"].map Description.owner =
      ["lint", "build"].map Value.text := rfl
  have hdistinct : ["lint", "build"].Nodup := by decide
  have hlint : ∀ regexp, ¬ AsksFor (.text "build") (named "lint" regexp) := by
    simp [AsksFor, named]
  refine ⟨((select_ends hthree _).1 _).2 (.inl ?_),
    ((select_ends hthree _).2.2 _).2 (.inl ⟨rfl, fun m hm => ?_, rfl⟩), hdistinct,
    ((select_ends htwo _).2.1 hdistinct _).1 rfl⟩
  · refine ⟨[named "lint" "z"], ⟨.inr rfl, [named "lint" "x"], rfl, ?_⟩, ?_⟩
    · simpa using hlint "x"
    · simpa using hlint "z"
  · cases isOnly_null_iff.1 hm

/-- A document with two matchers of one owner. -/
def lintTwice : Value := .list [(named "lint" "x").toValue, (named "lint" "z").toValue]

/-- A matcher is selected although the owner asks for two of them. -/
theorem select_repeated :
    ∃ matchers m, matchersOf lintTwice = .ok matchers ∧ select matchers (.text "lint") = .ok m ∧
      ¬ IsOnly (.text "lint") matchers m := by
  refine ⟨[named "lint" "x", named "lint" "z"], named "lint" "x", rfl, rfl, ?_⟩
  have hlint : ∀ regexp, AsksFor (.text "lint") (named "lint" regexp) := fun _ => .inr rfl
  rintro ⟨behind, ⟨-, before, heq, hbefore⟩, hbehind⟩
  -- Wherever the only one stands, the other one is before it or behind it.
  cases before with
  | nil =>
    obtain ⟨-, rfl⟩ := List.cons.inj heq
    exact hbehind _ List.mem_cons_self (hlint "z")
  | cons b before =>
    obtain ⟨rfl, -⟩ := List.cons.inj heq
    exact hbefore _ List.mem_cons_self (hlint "x")

end LogSift.MatcherFile
