import Mathlib.Data.List.Forall2
import LogSift.Value.Basic

/-!
# Ordered maps

What the operations of `Entries` do to the two things that can be seen of a map: the value at a key
(`get?`) and the keys in order (`keys`).

* `get?_set`, `keys_set`: a value is put at its key; a new key comes last. A value that is replaced
  keeps its place (`set_append_cons`).
* `get?_merge`, `keys_merge`: the second map wins, and its keys that are new come last.
* `merged_foldl`: maps merged one after another have the value that comes last at each key and the
  keys in the order in which they come first (`Merged`). Each of its entries comes from one of them
  (`Merged.exists_of_mem`). If no part has a key twice, the last part that has a key gives its value
  (`Merged.get?_eq`).
* `IsDistinct`: no key comes twice. Putting values and merging keep it, every entry of such a map is
  found (`get?_of_mem`), and maps without a common key are merged one behind the other
  (`merge_eq_append`).
* `erase`: a map without a key. Putting values and merging commute with it (`erase_set`,
  `erase_merge`).
* `mapKeys`: a map with other keys. Where these are the same just if the old ones are
  (`KeepsKeys`), looking up, putting values and merging commute with it.
* `mapAt`: a map with another value at one key.
-/

namespace LogSift

namespace Scalar

theorem sameKey_iff {a b : Scalar} : a.sameKey b = true ↔ a.identity = b.identity := by
  simp [sameKey]

theorem sameKey_congr {a b : Scalar} (h : a.sameKey b = true) (c : Scalar) :
    a.sameKey c = b.sameKey c := by
  simp only [sameKey, sameKey_iff.1 h]

/-- A text is the same key as itself only. -/
theorem sameKey_text_iff {name : String} {key : Scalar} :
    (text name).sameKey key = true ↔ key = text name := by
  rw [sameKey_iff, eq_comm]
  cases key with
  | text s => simp [identity]
  | float x => simp only [identity]; split <;> simp
  | timestamp t => simp only [identity]; split <;> simp
  | _ => simp [identity]

end Scalar

namespace Entries

variable {α : Type}

/-- The keys in order. -/
def keys (m : Entries α) : List Scalar := m.map Prod.fst

@[simp] theorem keys_nil : keys ([] : Entries α) = [] := rfl

@[simp] theorem keys_cons (e : Scalar × α) (m : Entries α) : keys (e :: m) = e.1 :: keys m := rfl

@[simp] theorem keys_append (m n : Entries α) : keys (m ++ n) = keys m ++ keys n :=
  List.map_append

/-! ## Looking up -/

@[simp] theorem get?_nil (key : Scalar) : get? key ([] : Entries α) = none := rfl

theorem get?_append (key : Scalar) (m n : Entries α) :
    get? key (m ++ n) = (get? key m).or (get? key n) := by
  induction m with
  | nil => rfl
  | cons e m ih =>
    simp only [List.cons_append, get?]
    split
    · rfl
    · exact ih

theorem get?_congr {a b : Scalar} (h : a.sameKey b = true) (m : Entries α) :
    get? a m = get? b m := by
  induction m with
  | nil => rfl
  | cons e m ih =>
    have hk : e.1.sameKey a = e.1.sameKey b := by
      rw [Scalar.sameKey_comm e.1 a, Scalar.sameKey_comm e.1 b]
      exact Scalar.sameKey_congr h e.1
    simp only [get?, hk, ih]

theorem get?_eq_some {key : Scalar} {v : α} {m : Entries α} (h : get? key m = some v) :
    ∃ k, (k, v) ∈ m ∧ k.sameKey key = true := by
  induction m with
  | nil => cases h
  | cons e m ih =>
    rw [get?] at h
    split at h
    · next hkey =>
      cases h
      exact ⟨e.1, List.mem_cons_self, hkey⟩
    · obtain ⟨k, hk, hkey⟩ := ih h
      exact ⟨k, List.mem_cons_of_mem e hk, hkey⟩

theorem has_cons (key : Scalar) (e : Scalar × α) (m : Entries α) :
    has key (e :: m) = (e.1.sameKey key || has key m) := by
  simp only [has, get?]
  cases e.1.sameKey key <;> rfl

/-- A value that is found stands behind entries of other keys. -/
theorem exists_split_of_get? {key : Scalar} {v : α} {m : Entries α} (h : get? key m = some v) :
    ∃ (before : Entries α) (k : Scalar) (after : Entries α),
      m = before ++ (k, v) :: after ∧ before.has key = false ∧ k.sameKey key = true := by
  induction m with
  | nil => cases h
  | cons e m ih =>
    rw [get?] at h
    split at h
    · next hkey =>
      cases h
      exact ⟨[], e.1, m, rfl, rfl, hkey⟩
    · next hkey =>
      obtain ⟨before, k, after, rfl, hbefore, hk⟩ := ih h
      refine ⟨e :: before, k, after, rfl, ?_, hk⟩
      rw [has_cons, hbefore, Bool.eq_false_iff.2 hkey]
      rfl

/-- Maps whose entries are related, key by key in order, have related values at each key. -/
theorem rel_get?_of_forall₂ {β : Type} {R : α → β → Prop} {m : Entries α} {n : Entries β}
    (h : List.Forall₂ (fun e e' => e'.1 = e.1 ∧ R e.2 e'.2) m n) (key : Scalar) :
    Option.Rel R (get? key m) (get? key n) := by
  induction h with
  | nil => exact .none
  | cons he _ ih =>
    rw [get?, get?, he.1]
    split
    · exact .some he.2
    · exact ih

/-- There is a value at a key just if it is one of the keys. -/
theorem has_iff {key : Scalar} {m : Entries α} :
    m.has key = true ↔ ∃ k ∈ m.keys, k.sameKey key = true := by
  induction m with
  | nil => simp [has]
  | cons e m ih =>
    simp only [has_cons, Bool.or_eq_true, ih, keys_cons, List.mem_cons, or_and_right, exists_or,
      exists_eq_left]

theorem has_text_iff {name : String} {m : Entries α} :
    m.has (.text name) = true ↔ .text name ∈ m.keys := by
  rw [has_iff]
  constructor
  · rintro ⟨key, hkey, hsame⟩
    rw [Scalar.sameKey_comm, Scalar.sameKey_text_iff] at hsame
    exact hsame ▸ hkey
  · exact fun hkey => ⟨_, hkey, Scalar.sameKey_refl _⟩

theorem has_eq_false_iff {key : Scalar} {m : Entries α} :
    m.has key = false ↔ ∀ k ∈ m.keys, k.sameKey key = false := by
  rw [← Bool.not_eq_true, has_iff]
  simp

theorem get?_eq_none_iff {key : Scalar} {m : Entries α} :
    get? key m = none ↔ ∀ k ∈ m.keys, ¬ k.sameKey key = true := by
  rw [← Option.not_isSome_iff_eq_none, ← has, has_iff]
  simp

/-- Entries of other keys do not matter to a key. -/
theorem get?_filter {key : Scalar} {p : Scalar → Bool}
    (h : ∀ k : Scalar, k.sameKey key = true → p k = true) (m : Entries α) :
    get? key (m.filter fun e => p e.1) = get? key m := by
  induction m with
  | nil => rfl
  | cons e m ih =>
    rw [get?]
    split
    · next hkey => simp [h e.1 hkey, get?, hkey]
    · next hkey =>
      cases hp : p e.1 with
      | true => simp [hp, get?, hkey, ih]
      | false => simp [hp, ih]

/-! ## Putting a value -/

theorem get?_set (key k : Scalar) (v : α) (m : Entries α) :
    get? k (set key v m) = if key.sameKey k then some v else get? k m := by
  induction m with
  | nil => simp [set, get?]
  | cons e m ih =>
    simp only [set]
    split
    · next h =>
      -- The entry that is replaced is found under the same keys as before.
      have hk := Scalar.sameKey_congr h k
      simp only [get?, hk]
      split <;> rfl
    · next h =>
      simp only [get?, ih]
      by_cases hk : key.sameKey k = true
      · have hne : ¬ e.1.sameKey k = true := by
          intro he
          rw [Scalar.sameKey_comm, ← Scalar.sameKey_congr hk, Scalar.sameKey_comm] at he
          exact h he
        simp [hk, hne]
      · simp [hk]

theorem keys_set (key : Scalar) (v : α) (m : Entries α) :
    (set key v m).keys = if m.has key then m.keys else m.keys ++ [key] := by
  induction m with
  | nil => rfl
  | cons e m ih =>
    simp only [set, has, get?] at ih ⊢
    split
    · rfl
    · rw [keys_cons, ih]
      split
      · next h => simp [h]
      · next h => simp [h]

/-- A value that is put at a key takes the place of the one that was there. -/
theorem set_append_cons {key k : Scalar} {before : Entries α} (hbefore : before.has key = false)
    (hk : k.sameKey key = true) (v w : α) (after : Entries α) :
    set key w (before ++ (k, v) :: after) = before ++ (k, w) :: after := by
  induction before with
  | nil => rw [List.nil_append, set, if_pos hk, List.nil_append]
  | cons e before ih =>
    rw [has_cons, Bool.or_eq_false_iff] at hbefore
    rw [List.cons_append, set, if_neg (by simp [hbefore.1]), ih hbefore.2, List.cons_append]

theorem mem_set {key : Scalar} {v : α} {e : Scalar × α} {m : Entries α} (h : e ∈ m.set key v) :
    e ∈ m ∨ e.2 = v ∧ (e.1 = key ∨ e.1 ∈ m.keys ∧ e.1.sameKey key = true) := by
  induction m with
  | nil =>
    rw [set, List.mem_singleton] at h
    exact .inr (h ▸ ⟨rfl, .inl rfl⟩)
  | cons first m ih =>
    rw [set] at h
    split at h
    · next hkey =>
      rcases List.mem_cons.1 h with rfl | h
      · exact .inr ⟨rfl, .inr ⟨List.mem_cons_self, hkey⟩⟩
      · exact .inl (List.mem_cons_of_mem _ h)
    · rcases List.mem_cons.1 h with rfl | h
      · exact .inl List.mem_cons_self
      · rcases ih h with h | ⟨hv, h | ⟨h, hkey⟩⟩
        · exact .inl (List.mem_cons_of_mem _ h)
        · exact .inr ⟨hv, .inl h⟩
        · exact .inr ⟨hv, .inr ⟨List.mem_cons_of_mem _ h, hkey⟩⟩

/-! ## Merging -/

@[simp] theorem merge_nil (m : Entries α) : merge m [] = m := rfl

theorem merge_cons (m : Entries α) (e : Scalar × α) (n : Entries α) :
    merge m (e :: n) = merge (set e.1 e.2 m) n := rfl

theorem merge_append (m n o : Entries α) : merge m (n ++ o) = merge (merge m n) o := by
  induction n generalizing m with
  | nil => rfl
  | cons e n ih => exact ih _

/-- The values of a merged map are values of its parts. -/
theorem exists_of_mem_merge {m n : Entries α} {e : Scalar × α} (h : e ∈ merge m n) :
    ∃ part ∈ m ++ n, part.2 = e.2 := by
  induction n generalizing m with
  | nil => exact ⟨e, by simpa using h, rfl⟩
  | cons new n ih =>
    obtain ⟨part, hpart, hv⟩ := ih h
    rcases List.mem_append.1 hpart with hpart | hpart
    · rcases mem_set hpart with hpart | ⟨hnew, -⟩
      · exact ⟨part, List.mem_append_left _ hpart, hv⟩
      · exact ⟨new, by simp, hnew ▸ hv⟩
    · exact ⟨part, by simp [hpart], hv⟩

/-- The second map wins, with the last of its values at a key. -/
theorem get?_merge (key : Scalar) (m n : Entries α) :
    get? key (merge m n) = (get? key n.reverse).or (get? key m) := by
  induction n generalizing m with
  | nil => rfl
  | cons e n ih =>
    rw [merge_cons, ih, get?_set, List.reverse_cons, get?_append, Option.or_assoc]
    congr 1
    simp only [get?]
    split <;> rfl

/-- At a key that the second map has, the first one does not matter. -/
theorem get?_merge_of_has {key : Scalar} {n : Entries α} (h : n.has key = true)
    (m m' : Entries α) : get? key (merge m n) = get? key (merge m' n) := by
  have hback : has key n.reverse = true := by
    rw [has_iff] at h ⊢
    simpa [keys] using h
  obtain ⟨v, hv⟩ := Option.isSome_iff_exists.1 hback
  simp [get?_merge, hv]

/-- The keys of the second map that the first one does not have come last, each of them once. -/
theorem keys_merge (m n : Entries α) :
    (merge m n).keys =
      m.keys ++ (n.keys.filter fun k => !m.has k).eraseDupsBy Scalar.sameKey := by
  induction n generalizing m with
  | nil => simp
  | cons e n ih =>
    rw [merge_cons, ih, keys_set, keys_cons]
    have hset (k : Scalar) : (set e.1 e.2 m).has k = (e.1.sameKey k || m.has k) := by
      simp only [has, get?_set]
      split
      · next h => simp [h]
      · next h => simp [h]
    by_cases he : m.has e.1 = true
    · have hk : ∀ k, (set e.1 e.2 m).has k = m.has k := by
        intro k
        rw [hset]
        by_cases hk : e.1.sameKey k = true
        · have : m.has k = true := by rw [has, ← get?_congr hk]; exact he
          simp [this]
        · simp [hk]
      simp [he, hk]
    · simp only [he, Bool.not_false, List.filter_cons_of_pos, List.eraseDupsBy_cons]
      simp only [hset, Bool.not_or, List.filter_filter, List.append_assoc, List.singleton_append,
        Bool.false_eq_true, ↓reduceIte]
      congr 4
      funext k
      rw [Scalar.sameKey_comm]
      cases k.sameKey e.1 <;> simp

/-- Maps merged one after another are one map merged with all their entries. -/
theorem foldl_merge (m : Entries α) (ms : List (Entries α)) :
    ms.foldl merge m = merge m ms.flatten := by
  induction ms generalizing m with
  | nil => rfl
  | cons n ms ih => rw [List.foldl_cons, ih, List.flatten_cons, merge_append]

/-- How a map comes from maps that are merged one after another: it has at each key the value that
comes last, and its keys stand where they come first. -/
structure Merged (parts : List (Entries α)) (m : Entries α) : Prop where
  value_eq : ∀ key, get? key m = get? key parts.flatten.reverse
  keys_eq : keys m = (keys parts.flatten).eraseDupsBy Scalar.sameKey

theorem merged_foldl (parts : List (Entries α)) : Merged parts (parts.foldl merge []) where
  value_eq key := by simp [foldl_merge, get?_merge]
  keys_eq := by
    have hnew : (keys parts.flatten).filter (fun k => !has k ([] : Entries α)) =
        keys parts.flatten := List.filter_eq_self.2 fun _ _ => rfl
    rw [foldl_merge, keys_merge, hnew, keys_nil, List.nil_append]

/-- A merged map has the keys of its parts. -/
theorem Merged.has_iff {parts : List (Entries α)} {m : Entries α} (h : Merged parts m)
    {key : Scalar} : m.has key = true ↔ ∃ part ∈ parts, part.has key = true := by
  rw [has, h.value_eq, ← has, Entries.has_iff]
  simp only [Entries.has_iff, keys, List.map_reverse, List.mem_reverse, List.mem_map,
    List.mem_flatten]
  constructor
  · rintro ⟨-, ⟨e, ⟨part, hpart, he⟩, rfl⟩, hkey⟩
    exact ⟨part, hpart, e.1, ⟨e, he, rfl⟩, hkey⟩
  · rintro ⟨part, hpart, -, ⟨e, he, rfl⟩, hkey⟩
    exact ⟨e.1, ⟨e, ⟨part, hpart, he⟩, rfl⟩, hkey⟩

/-! ## Distinct keys -/

/-- Whether no key comes twice. -/
def IsDistinct (m : Entries α) : Prop := m.keys.Pairwise fun a b => a.sameKey b = false

instance (m : Entries α) : Decidable m.IsDistinct :=
  inferInstanceAs (Decidable (List.Pairwise _ _))

@[simp] theorem isDistinct_nil : IsDistinct ([] : Entries α) := List.Pairwise.nil

theorem isDistinct_cons {e : Scalar × α} {m : Entries α} :
    IsDistinct (e :: m) ↔ m.has e.1 = false ∧ m.IsDistinct := by
  rw [has_eq_false_iff, IsDistinct, keys_cons, List.pairwise_cons]
  simp only [Scalar.sameKey_comm e.1]
  rfl

theorem isDistinct_append {m n : Entries α} :
    IsDistinct (m ++ n) ↔ m.IsDistinct ∧ n.IsDistinct ∧ ∀ k ∈ n.keys, m.has k = false := by
  simp only [IsDistinct, keys_append, List.pairwise_append, has_eq_false_iff]
  exact and_congr_right fun _ => and_congr_right fun _ =>
    ⟨fun h k hk j hj => h j hj k hk, fun h j hj k hk => h k hk j hj⟩

/-- Every entry of a map without equal keys is found. -/
theorem get?_of_mem {key : Scalar} {v : α} {m : Entries α} (hm : m.IsDistinct)
    (h : (key, v) ∈ m) : get? key m = some v := by
  induction m with
  | nil => cases h
  | cons e m ih =>
    obtain ⟨hnew, hm⟩ := isDistinct_cons.1 hm
    rw [get?]
    rcases List.mem_cons.1 h with rfl | h
    · rw [if_pos (Scalar.sameKey_refl key)]
    · rw [if_neg, ih hm h]
      have hkey := has_eq_false_iff.1 hnew key (List.mem_map_of_mem h)
      simp [Scalar.sameKey_comm e.1, hkey]

theorem get?_reverse {m : Entries α} (hm : m.IsDistinct) (key : Scalar) :
    get? key m.reverse = get? key m := by
  induction m with
  | nil => rfl
  | cons e m ih =>
    obtain ⟨hnew, hm⟩ := isDistinct_cons.1 hm
    rw [List.reverse_cons, get?_append, ih hm, get?]
    by_cases hkey : e.1.sameKey key = true
    · have hnone : get? key m = none := by
        rw [← get?_congr hkey]
        simpa [has] using hnew
      simp [hnone, get?, hkey]
    · simp [get?, hkey]

/-- Of parts without equal keys the last one that has a key gives its value. -/
theorem Merged.get?_eq {parts : List (Entries α)} {last m : Entries α}
    (h : Merged (parts ++ [last]) m) (hparts : ∀ part ∈ parts, part.IsDistinct)
    (hlast : last.IsDistinct) (key : Scalar) :
    get? key m = (get? key last).or (parts.reverse.findSome? (get? key)) := by
  have hflatten : get? key parts.flatten.reverse = parts.reverse.findSome? (get? key) := by
    clear h
    induction parts with
    | nil => rfl
    | cons part parts ih =>
      obtain ⟨hpart, hrest⟩ := List.forall_mem_cons.1 hparts
      rw [List.flatten_cons, List.reverse_append, get?_append, ih hrest, get?_reverse hpart,
        List.reverse_cons, List.findSome?_append, List.findSome?_singleton]
  rw [h.value_eq, List.flatten_append, List.flatten_singleton, List.reverse_append, get?_append,
    get?_reverse hlast, hflatten]

/-- An entry of a merged map has the value of an entry of the last part, or, at a key that the last
part does not have, of one before it. -/
theorem Merged.exists_of_mem {parts : List (Entries α)} {last m : Entries α} {e : Scalar × α}
    (h : Merged (parts ++ [last]) m) (hm : m.IsDistinct) (he : e ∈ m) :
    (∃ key, (key, e.2) ∈ last ∧ key.sameKey e.1 = true) ∨
      last.has e.1 = false ∧ ∃ part ∈ parts, ∃ key, (key, e.2) ∈ part ∧ key.sameKey e.1 = true := by
  have hget := (h.value_eq e.1).symm.trans (get?_of_mem hm he)
  rw [List.flatten_append, List.flatten_singleton, List.reverse_append, get?_append,
    Option.or_eq_some_iff] at hget
  rcases hget with hlast | ⟨hnone, hparts⟩
  · obtain ⟨key, hmem, hkey⟩ := get?_eq_some hlast
    exact .inl ⟨key, List.mem_reverse.1 hmem, hkey⟩
  · obtain ⟨key, hmem, hkey⟩ := get?_eq_some hparts
    obtain ⟨part, hpart, hmem⟩ := List.mem_flatten.1 (List.mem_reverse.1 hmem)
    refine .inr ⟨?_, part, hpart, key, hmem, hkey⟩
    rw [get?_eq_none_iff, keys, List.map_reverse] at hnone
    exact has_eq_false_iff.2 fun k hk => by simpa using hnone k (List.mem_reverse.2 hk)

theorem set_eq_append {key : Scalar} {m : Entries α} (h : m.has key = false) (v : α) :
    m.set key v = m ++ [(key, v)] := by
  induction m with
  | nil => rfl
  | cons e m ih =>
    rw [has_eq_false_iff, keys_cons, List.forall_mem_cons, ← has_eq_false_iff] at h
    rw [set, if_neg (by simp [h.1]), ih h.2, List.cons_append]

theorem IsDistinct.set {m : Entries α} (h : m.IsDistinct) (key : Scalar) (v : α) :
    (m.set key v).IsDistinct := by
  cases hkey : m.has key with
  | true => rwa [IsDistinct, keys_set, if_pos hkey]
  | false =>
    rw [set_eq_append hkey, isDistinct_append]
    exact ⟨h, List.pairwise_singleton _ _, by simpa using hkey⟩

theorem IsDistinct.merge {m : Entries α} (h : m.IsDistinct) (n : Entries α) :
    (m.merge n).IsDistinct := by
  induction n generalizing m with
  | nil => exact h
  | cons e n ih => exact ih (h.set e.1 e.2)

/-- Maps without a common key are merged one behind the other. -/
theorem merge_eq_append {m n : Entries α} (h : IsDistinct (m ++ n)) : m.merge n = m ++ n := by
  induction n generalizing m with
  | nil => simp
  | cons e n ih =>
    have hnew : m.has e.1 = false := (isDistinct_append.1 h).2.2 e.1 List.mem_cons_self
    have happend : m ++ e :: n = m ++ [e] ++ n := by simp
    rw [merge_cons, set_eq_append hnew, ih (happend ▸ h), happend]

/-! ## Without a key -/

/-- The map without the values at a key. -/
def erase (key : Scalar) (m : Entries α) : Entries α := m.filter fun e => !e.1.sameKey key

@[simp] theorem erase_nil (key : Scalar) : erase key ([] : Entries α) = [] := rfl

theorem erase_cons (key : Scalar) (e : Scalar × α) (m : Entries α) :
    erase key (e :: m) = if e.1.sameKey key then erase key m else e :: erase key m := by
  cases h : e.1.sameKey key with
  | true => simp [erase, h]
  | false => simp [erase, h]

/-- The values at other keys stay. -/
theorem get?_erase {key k : Scalar} (h : k.sameKey key = false) (m : Entries α) :
    get? k (erase key m) = get? k m := by
  refine get?_filter (p := fun k => !k.sameKey key) (fun j hj => ?_) m
  rw [Scalar.sameKey_congr hj, h]
  rfl

theorem erase_set_self (key : Scalar) (v : α) (m : Entries α) :
    erase key (m.set key v) = erase key m := by
  induction m with
  | nil => simp [set, erase_cons, Scalar.sameKey_refl]
  | cons e m ih =>
    rw [set]
    split
    · next h => simp [erase_cons, h]
    · next h => simp [erase_cons, h, ih]

theorem erase_set {key k : Scalar} (h : k.sameKey key = false) (v : α) (m : Entries α) :
    erase key (m.set k v) = (erase key m).set k v := by
  induction m with
  | nil => simp [set, erase_cons, h]
  | cons e m ih =>
    rw [set]
    split
    · next hk =>
      have he : e.1.sameKey key = false := (Scalar.sameKey_congr hk key).trans h
      simp [erase_cons, he, set, hk]
    · next hk =>
      cases he : e.1.sameKey key with
      | true => simp [erase_cons, he, ih]
      | false => simp [erase_cons, he, ih, set, hk]

theorem erase_merge (key : Scalar) (m n : Entries α) :
    erase key (m.merge n) = (erase key m).merge (erase key n) := by
  induction n generalizing m with
  | nil => rfl
  | cons e n ih =>
    rw [merge_cons, ih, erase_cons]
    cases he : e.1.sameKey key with
    | true =>
      have hset : erase key (m.set e.1 e.2) = erase key m := by
        have hkey (e' : Scalar × α) : e'.1.sameKey key = e'.1.sameKey e.1 := by
          rw [Scalar.sameKey_comm, Scalar.sameKey_comm _ e.1]
          exact (Scalar.sameKey_congr he e'.1).symm
        have herase (m : Entries α) : erase key m = erase e.1 m := by simp only [erase, hkey]
        rw [herase, erase_set_self, herase]
      simp [hset]
    | false => simp [erase_set he, merge_cons]

/-! ## Other keys -/

/-- The map with another key in the place of each key. -/
def mapKeys (f : Scalar → Scalar) (m : Entries α) : Entries α := m.map fun e => (f e.1, e.2)

/-- Whether what stands for two keys is the same key just if they are. -/
def KeepsKeys (f : Scalar → Scalar) : Prop := ∀ a b, (f a).sameKey (f b) = a.sameKey b

section

variable {f : Scalar → Scalar} (hf : KeepsKeys f)
include hf

theorem get?_mapKeys (key : Scalar) (m : Entries α) : get? (f key) (m.mapKeys f) = get? key m := by
  induction m with
  | nil => rfl
  | cons e m ih =>
    simp only [mapKeys, List.map_cons, get?] at ih ⊢
    rw [ih, hf e.1 key]

theorem mapKeys_set (key : Scalar) (v : α) (m : Entries α) :
    (m.set key v).mapKeys f = (m.mapKeys f).set (f key) v := by
  induction m with
  | nil => rfl
  | cons e m ih =>
    simp only [mapKeys, List.map_cons, set] at ih ⊢
    rw [hf e.1 key, ← ih]
    split
    · rfl
    · rfl

theorem mapKeys_merge (m n : Entries α) :
    (m.merge n).mapKeys f = (m.mapKeys f).merge (n.mapKeys f) := by
  induction n generalizing m with
  | nil => rfl
  | cons e n ih =>
    rw [merge_cons, ih, mapKeys_set hf]
    rfl

end

/-! ## Another value -/

/-- The map in which what a function makes of the value at a key stands in its place. -/
def mapAt (key : Scalar) (f : α → α) (m : Entries α) : Entries α :=
  m.map fun e => if e.1.sameKey key then (e.1, f e.2) else e

theorem get?_mapAt (key k : Scalar) (f : α → α) (m : Entries α) :
    get? k (m.mapAt key f) = if k.sameKey key then (get? k m).map f else get? k m := by
  induction m with
  | nil => split <;> rfl
  | cons e m ih =>
    have hfirst : (if e.1.sameKey key then (e.1, f e.2) else e).1 = e.1 := by
      split
      · rfl
      · rfl
    have hcons : mapAt key f (e :: m) =
        (if e.1.sameKey key then (e.1, f e.2) else e) :: mapAt key f m := rfl
    rw [hcons, get?, get?, hfirst, ih]
    by_cases hk : e.1.sameKey k = true
    · rw [if_pos hk, if_pos hk, Scalar.sameKey_congr hk]
      split
      · rfl
      · rfl
    · rw [if_neg hk, if_neg hk]

end Entries

end LogSift
