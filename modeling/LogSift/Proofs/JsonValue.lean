import Mathlib.Algebra.Group.Nat.Defs
import LogSift.Json.Printer
import LogSift.Json.Reader
import LogSift.Outcome
import LogSift.Proofs.Entries
import LogSift.Value.Show

/-!
# The values of JSON documents

* `Value.isJson`: the values that documents hold. The names in their maps are texts, and their
  integers have no more digits than are read.
* `Value.isShowable_of_isJson`: messages can show all of them. `Json.exists_print`: JSON can.
* `Value.IsDocument`: such a value of which no map has a key twice. A document that is read gives
  one (`Json.isDocument_of_read`).
-/

namespace LogSift

/-- Whether a scalar can stand in a JSON document. -/
def Scalar.isJson : Scalar → Bool
  | .null | .bool _ | .float _ | .text _ => true
  | .int n => Number.isShowable n
  | _ => false

theorem Scalar.isShowable_of_isJson {s : Scalar} (h : s.isJson = true) : s.isShowable = true := by
  cases s with
  | int n => exact h
  | _ => rfl

namespace Value

mutual

/-- Whether a JSON document can hold a value. -/
def isJson : Value → Bool
  | .scalar s => s.isJson
  | .list items => itemsJson items
  | .map entries => entriesJson entries
  | _ => false

/-- Whether a JSON document can hold the items of a list. -/
def itemsJson : List Value → Bool
  | [] => true
  | v :: rest => v.isJson && itemsJson rest

/-- Whether a JSON document can hold the entries of a map. -/
def entriesJson : List (Scalar × Value) → Bool
  | [] => true
  | (.text _, v) :: rest => v.isJson && entriesJson rest
  | _ => false

end

/-- Whether a JSON document can hold an entry of a map: its key is a text. -/
def IsJsonEntry (e : Scalar × Value) : Prop := (∃ name, e.1 = .text name) ∧ e.2.isJson = true

theorem itemsJson_iff {items : List Value} :
    itemsJson items = true ↔ ∀ v ∈ items, v.isJson = true := by
  induction items with
  | nil => simp [itemsJson]
  | cons v items ih => simp [itemsJson, ih]

theorem entriesJson_iff {entries : Entries Value} :
    entriesJson entries = true ↔ ∀ e ∈ entries, IsJsonEntry e := by
  induction entries with
  | nil => simp [entriesJson]
  | cons e entries ih =>
    obtain ⟨key, v⟩ := e
    cases key with
    | text name => simp [entriesJson, IsJsonEntry, ih]
    | _ => simp [entriesJson, IsJsonEntry]

mutual

/-- A message can show what a JSON document holds. -/
theorem isShowable_of_isJson : ∀ {v : Value}, v.isJson = true → v.isShowable = true
  | .scalar _, h => Scalar.isShowable_of_isJson h
  | .list _, h => itemsShowable_of_itemsJson h
  | .map _, h => entriesShowable_of_entriesJson h

theorem itemsShowable_of_itemsJson : ∀ {items : List Value},
    itemsJson items = true → itemsShowable items = true
  | [], _ => rfl
  | v :: rest, h => by
    obtain ⟨hv, hrest⟩ := Bool.and_eq_true_iff.1 h
    exact Bool.and_eq_true_iff.2
      ⟨isShowable_of_isJson hv, itemsShowable_of_itemsJson hrest⟩

theorem entriesShowable_of_entriesJson : ∀ {entries : List (Scalar × Value)},
    entriesJson entries = true → entriesShowable entries = true
  | [], _ => rfl
  | (.text name, v) :: rest, h => by
    obtain ⟨hv, hrest⟩ := Bool.and_eq_true_iff.1 h
    have hshown : ((Scalar.text name).isShowable && v.isShowable) = true :=
      isShowable_of_isJson hv
    exact Bool.and_eq_true_iff.2 ⟨hshown, entriesShowable_of_entriesJson hrest⟩

end

end Value

/-! ## Documents -/

namespace Value

mutual

/-- Whether no map in a value has a key twice. -/
def hasDistinctKeys : Value → Bool
  | .list items => itemsDistinct items
  | .pair a b => a.hasDistinctKeys && b.hasDistinctKeys
  | .map entries => decide (Entries.IsDistinct entries) && entriesDistinct entries
  | _ => true

/-- Whether no map in the items of a list has a key twice. -/
def itemsDistinct : List Value → Bool
  | [] => true
  | v :: rest => v.hasDistinctKeys && itemsDistinct rest

/-- Whether no map in the values of a map has a key twice. -/
def entriesDistinct : List (Scalar × Value) → Bool
  | [] => true
  | (_, v) :: rest => v.hasDistinctKeys && entriesDistinct rest

end

theorem itemsDistinct_iff {items : List Value} :
    itemsDistinct items = true ↔ ∀ v ∈ items, v.hasDistinctKeys = true := by
  induction items with
  | nil => simp [itemsDistinct]
  | cons v items ih => simp [itemsDistinct, ih]

theorem hasDistinctKeys_map_iff {entries : Entries Value} :
    (Value.map entries).hasDistinctKeys = true ↔
      entries.IsDistinct ∧ ∀ e ∈ entries, e.2.hasDistinctKeys = true := by
  have hvalues : entriesDistinct entries = true ↔ ∀ e ∈ entries, e.2.hasDistinctKeys = true := by
    induction entries with
    | nil => simp [entriesDistinct]
    | cons e entries ih => simp [entriesDistinct, ih]
  rw [hasDistinctKeys, Bool.and_eq_true, decide_eq_true_eq, hvalues]

/-- A value as a JSON document gives it. -/
structure IsDocument (v : Value) : Prop where
  json : v.isJson = true
  distinct : v.hasDistinctKeys = true

theorem isDocument_list_iff {items : List Value} :
    (Value.list items).IsDocument ↔ ∀ v ∈ items, v.IsDocument := by
  constructor
  · intro h v hv
    exact ⟨itemsJson_iff.1 h.json v hv, itemsDistinct_iff.1 h.distinct v hv⟩
  · intro h
    exact ⟨itemsJson_iff.2 fun v hv => (h v hv).json,
      itemsDistinct_iff.2 fun v hv => (h v hv).distinct⟩

theorem isDocument_map_iff {entries : Entries Value} :
    (Value.map entries).IsDocument ↔
      entries.IsDistinct ∧ ∀ e ∈ entries, (∃ name, e.1 = .text name) ∧ e.2.IsDocument := by
  constructor
  · rintro ⟨hjson, hdistinct⟩
    obtain ⟨hkeys, hvalues⟩ := hasDistinctKeys_map_iff.1 hdistinct
    refine ⟨hkeys, fun e he => ?_⟩
    obtain ⟨hname, hv⟩ := entriesJson_iff.1 hjson e he
    exact ⟨hname, hv, hvalues e he⟩
  · rintro ⟨hdistinct, hentries⟩
    exact ⟨entriesJson_iff.2 fun e he => ⟨(hentries e he).1, (hentries e he).2.json⟩,
      hasDistinctKeys_map_iff.2 ⟨hdistinct, fun e he => (hentries e he).2.distinct⟩⟩

theorem IsDocument.set {name : String} {v : Value} {m : Entries Value}
    (hm : (Value.map m).IsDocument) (hv : v.IsDocument) :
    (Value.map (m.set (.text name) v)).IsDocument := by
  rw [isDocument_map_iff] at hm ⊢
  refine ⟨hm.1.set _ _, fun e he => ?_⟩
  rcases Entries.mem_set he with he | ⟨rfl, hkey⟩
  · exact hm.2 e he
  · refine ⟨?_, hv⟩
    rcases hkey with hkey | ⟨hkey, -⟩
    · exact ⟨name, hkey⟩
    · obtain ⟨old, hold, hkey⟩ := List.mem_map.1 hkey
      exact hkey ▸ (hm.2 old hold).1

end Value

namespace Entries

theorem isJson_of_get? {key : Scalar} {v : Value} {m : Entries Value}
    (hm : Value.entriesJson m = true) (h : m.get? key = some v) : v.isJson = true := by
  obtain ⟨k, hk, -⟩ := get?_eq_some h
  exact (Value.entriesJson_iff.1 hm (k, v) hk).2

theorem hasDistinctKeys_of_get? {key : Scalar} {v : Value} {m : Entries Value}
    (hm : (Value.map m).hasDistinctKeys = true) (h : m.get? key = some v) :
    v.hasDistinctKeys = true := by
  obtain ⟨k, hk, -⟩ := get?_eq_some h
  exact (Value.hasDistinctKeys_map_iff.1 hm).2 (k, v) hk

theorem isDocument_of_get? {key : Scalar} {v : Value} {m : Entries Value}
    (hm : (Value.map m).IsDocument) (h : m.get? key = some v) : v.IsDocument := by
  obtain ⟨k, hk, -⟩ := get?_eq_some h
  exact ((Value.isDocument_map_iff.1 hm).2 (k, v) hk).2

end Entries

/-! ## Integers -/

namespace Number

/-- A number is less than the power of ten of its digits. -/
theorem decimalRun_lt {value count : Nat} (h : value < 10 ^ count) (s : List Char) :
    (decimalRun value count s).1 < 10 ^ (decimalRun value count s).2.1 := by
  induction s generalizing value count with
  | nil => exact h
  | cons c rest ih =>
    rw [decimalRun]
    split
    · next hc =>
      apply ih
      have hc : c.toNat - '0'.toNat < 10 := by
        simp only [Char.isDigit, Bool.and_eq_true, decide_eq_true_eq, UInt32.le_iff_toNat_le] at hc
        have hlast : c.toNat ≤ 57 := hc.2
        have hzero : '0'.toNat = 48 := rfl
        omega
      rw [Nat.pow_succ]
      omega
    · exact h

theorem isShowable_of_lt {value count : Nat} (h : value < 10 ^ count) (hcount : count ≤ digitLimit)
    (negative : Bool) : isShowable (if negative then -(value : Int) else value) = true := by
  have habs : (if negative then -(value : Int) else value).natAbs = value := by
    cases negative <;> simp
  rw [isShowable, habs, decide_eq_true_eq]
  -- With the limit as a number, matching the powers would compute them.
  generalize digitLimit = limit at hcount ⊢
  exact Nat.lt_of_lt_of_le h (Nat.pow_le_pow_right (by decide) hcount)

theorem digitIn?_lt {base d : Nat} {c : Char} (h : digitIn? base c = some d) : d < base := by
  unfold digitIn? at h
  split at h
  · split at h
    · next hd => exact Option.some.inj h ▸ hd
    · cases h
  · cases h

theorem digitRun_lt {base count value : Nat} {afterLine : Bool} {s : List Char}
    {run : Nat × Nat × List Char} (h : value < base ^ count)
    (hrun : digitRun base count value afterLine s = some run) : run.2.1 < base ^ run.1 := by
  induction s generalizing count value afterLine with
  | nil =>
    rw [digitRun] at hrun
    split at hrun
    · cases hrun
    · cases hrun; exact h
  | cons c rest ih =>
    rw [digitRun] at hrun
    split at hrun
    · next d hd =>
      refine ih ?_ hrun
      have hd := digitIn?_lt hd
      calc value * base + d < value * base + base := Nat.add_lt_add_left hd _
        _ = (value + 1) * base := (Nat.succ_mul _ _).symm
        _ ≤ base ^ count * base := Nat.mul_le_mul_right _ h
        _ = base ^ (count + 1) := (Nat.pow_succ ..).symm
    · split at hrun
      · split at hrun
        · cases hrun
        · exact ih h hrun
      · split at hrun
        · cases hrun
        · cases hrun; exact h

/-- A decimal numeral that is read can be shown. -/
theorem isShowable_of_readInteger {text : String} {n : Int} (h : readInteger 10 text = .ok n) :
    isShowable n = true := by
  unfold readInteger at h
  simp only at h
  split at h
  · cases h
  · next count value rest hrun =>
    split at h
    · cases h
    · next hlimit =>
      split at h
      · cases h
      · cases h
        have hcount : count ≤ digitLimit := by simpa [isLimited] using hlimit
        exact isShowable_of_lt (digitRun_lt Nat.one_pos hrun) hcount _

end Number

/-! ## Reading -/

namespace Json

open Number

theorem isDocument_of_readNumber {s rest : List Char} {v : Value}
    (h : readNumber s = .ok (v, rest)) : v.IsDocument := by
  unfold readNumber at h
  split at h
  next negative body _ =>
  split at h
  next whole count left hrun =>
  have hwhole : whole < 10 ^ count := by
    split at hrun
    · cases hrun
      decide
    · have hlt : (decimalRun 0 0 body).1 < 10 ^ (decimalRun 0 0 body).2.1 :=
        decimalRun_lt Nat.one_pos body
      rwa [hrun] at hlt
  split at h
  · cases h
  · split at h
    · cases h
      exact ⟨rfl, rfl⟩
    · split at h
      · cases h
        exact ⟨rfl, rfl⟩
      · split at h
        · cases h
        · next hlimit =>
          cases h
          exact ⟨isShowable_of_lt hwhole (Nat.le_of_not_lt hlimit) negative, rfl⟩

theorem isDocument_of_readWord? {s : List Char} {found : Value × List Char}
    (h : readWord? s = some found) : found.1.IsDocument := by
  have hwords : ∀ w ∈ words, w.2.isJson = true ∧ w.2.hasDistinctKeys = true := by
    simp [words, Value.isJson, Scalar.isJson, Value.hasDistinctKeys]
  obtain ⟨w, hmem, h⟩ := List.exists_of_findSome?_eq_some h
  simp only [Option.ite_none_right_eq_some, Option.some.injEq] at h
  obtain ⟨-, rfl⟩ := h
  exact ⟨(hwords w hmem).1, (hwords w hmem).2⟩

/-- What the readers of values, items and members give, at any fuel. -/
structure ReadsDocument (fuel : Nat) : Prop where
  value : ∀ {s rest v}, readValue fuel s = .ok (v, rest) → v.IsDocument
  items : ∀ {s rest items}, readItems fuel s = .ok (items, rest) → ∀ v ∈ items, v.IsDocument
  members : ∀ {s rest before entries}, (Value.map before).IsDocument →
    readMembers fuel before s = .ok (entries, rest) → (Value.map entries).IsDocument

theorem readsDocument (fuel : Nat) : ReadsDocument fuel := by
  induction fuel with
  | zero =>
    refine ⟨fun h => ?_, fun h => ?_, fun _ h => ?_⟩
    · rw [readValue] at h; cases h
    · rw [readItems] at h; cases h
    · rw [readMembers] at h; cases h
  | succ fuel ih =>
    have hempty : (Value.map []).IsDocument := ⟨rfl, rfl⟩
    refine ⟨fun {s rest v} h => ?_, fun {s rest items} h => ?_,
      fun {s rest before entries} hbefore h => ?_⟩
    · rw [readValue.eq_def] at h
      simp only at h
      split at h
      · cases h
      · obtain ⟨_, -, h⟩ := Outcome.map_eq_ok.1 h
        cases h
        exact ⟨rfl, rfl⟩
      · split at h
        · cases h
          exact hempty
        · obtain ⟨_, hread, h⟩ := Outcome.map_eq_ok.1 h
          cases h
          exact ih.members hempty hread
      · split at h
        · cases h
          exact ⟨rfl, rfl⟩
        · obtain ⟨_, hread, h⟩ := Outcome.map_eq_ok.1 h
          cases h
          exact Value.isDocument_list_iff.2 (ih.items hread)
      · split at h
        · next hword =>
          cases h
          exact isDocument_of_readWord? hword
        · exact isDocument_of_readNumber h
    · rw [readItems] at h
      obtain ⟨⟨item, left⟩, hitem, h⟩ := Outcome.bind_eq_ok.1 h
      have hitem := ih.value hitem
      simp only at h
      split at h
      · cases h
        exact List.forall_mem_singleton.2 hitem
      · obtain ⟨⟨items, left⟩, hitems, h⟩ := Outcome.bind_eq_ok.1 h
        cases h
        exact List.forall_mem_cons.2 ⟨hitem, ih.items hitems⟩
      · cases h
    · rw [readMembers.eq_def] at h
      simp only at h
      split at h
      · obtain ⟨⟨name, left⟩, -, h⟩ := Outcome.bind_eq_ok.1 h
        simp only at h
        split at h
        · obtain ⟨⟨v, left⟩, hv, h⟩ := Outcome.bind_eq_ok.1 h
          have hset : (Value.map (Entries.set (.text name) v before)).IsDocument :=
            hbefore.set (ih.value hv)
          simp only at h
          split at h
          · cases h
            exact hset
          · exact ih.members hset h
          · cases h
        · cases h
      · cases h

/-- A document that is read gives a value that documents hold. -/
theorem isDocument_of_read {document : String} {v : Value} (h : read document = .ok v) :
    v.IsDocument := by
  unfold read at h
  simp only at h
  split at h
  · next hdocument =>
    split at h
    · cases h
    cases h
    unfold readDocument at hdocument
    split at hdocument
    · cases hdocument
    · obtain ⟨⟨v, left⟩, hv, hdocument⟩ := Outcome.bind_eq_ok.1 hdocument
      simp only at hdocument
      split at hdocument
      · cases hdocument
        exact (readsDocument _).value hv
      · cases hdocument
  · cases h
  · cases h

/-! ## Writing -/

theorem exists_printScalar {s : Scalar} (h : s.isJson = true) : ∃ cs, printScalar s = .ok cs := by
  cases s with
  | int n =>
    have hn : isShowable n = true := h
    exact ⟨_, by rw [printScalar, integerText, if_pos hn]; rfl⟩
  | null => exact ⟨_, rfl⟩
  | bool b => exact ⟨_, rfl⟩
  | float x => exact ⟨_, rfl⟩
  | text s => exact ⟨_, rfl⟩
  | octets bs => cases h
  | date d => cases h
  | timestamp t => cases h

mutual

/-- What a JSON document holds can be written at any level. -/
theorem exists_printValue : ∀ (level : Nat) {v : Value},
    v.isJson = true → ∃ cs, printValue level v = .ok cs
  | _, .scalar _, h => exists_printScalar h
  | level, .list _, h => by
    obtain ⟨parts, hparts⟩ := exists_printItems (level + 1) h
    exact ⟨_, by rw [printValue, hparts]; rfl⟩
  | level, .map _, h => by
    obtain ⟨parts, hparts⟩ := exists_printEntries (level + 1) h
    exact ⟨_, by rw [printValue, hparts]; rfl⟩

theorem exists_printItems : ∀ (level : Nat) {items : List Value},
    Value.itemsJson items = true → ∃ parts, printItems level items = .ok parts
  | _, [], _ => ⟨[], rfl⟩
  | level, v :: rest, h => by
    obtain ⟨hv, hrest⟩ := Bool.and_eq_true_iff.1 h
    obtain ⟨part, hpart⟩ := exists_printValue level hv
    obtain ⟨parts, hparts⟩ := exists_printItems level hrest
    exact ⟨_, by rw [printItems, hpart, hparts]; rfl⟩

theorem exists_printEntries : ∀ (level : Nat) {entries : List (Scalar × Value)},
    Value.entriesJson entries = true → ∃ parts, printEntries level entries = .ok parts
  | _, [], _ => ⟨[], rfl⟩
  | level, (.text _, v) :: rest, h => by
    obtain ⟨hv, hrest⟩ := Bool.and_eq_true_iff.1 h
    obtain ⟨part, hpart⟩ := exists_printValue level hv
    obtain ⟨parts, hparts⟩ := exists_printEntries level hrest
    exact ⟨_, by rw [printEntries, hpart, hparts]; rfl⟩

end

theorem exists_print {v : Value} (h : v.isJson = true) : ∃ s, print v = .ok s := by
  obtain ⟨cs, hcs⟩ := exists_printValue 0 h
  exact ⟨_, by rw [print, hcs]; rfl⟩

end Json

end LogSift
