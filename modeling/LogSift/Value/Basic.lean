import LogSift.Calendar
import LogSift.Number.Double

/-!
# Values

A `Scalar` is a value without parts; scalars are the keys of maps. Two scalars are the same key
when they are the same number, whether it is written as an integer, a floating-point number or
a truth value, the same instant, or otherwise equal.

`Entries` is an ordered map: a list of keys with values. `get?` looks a key up, `set` puts a value
at the place of its key or at the end, `merge` sets every entry of a second map.

A `Value` is what a matcher file can hold: a scalar, a list, a map, a set, a pair, or the mark of a
collection inside itself. `Value.equal` is the equality that matchers see; `Value.same_iff` decides
which values are the same.
-/

namespace LogSift

/-- A value without parts. -/
inductive Scalar where
  | null
  | bool (b : Bool)
  | int (n : Int)
  | float (x : Number.Double)
  | text (s : String)
  | octets (bs : List UInt8)
  | date (d : Date)
  | timestamp (t : Timestamp)
  deriving DecidableEq, Repr

namespace Scalar

/-- What two spellings of one key have in common. -/
inductive Identity where
  | null
  | number (n : Int)
  | float (x : Number.Double)
  | text (s : String)
  | octets (bs : List UInt8)
  | date (d : Date)
  | instant (microseconds : Int)
  | clock (microseconds : Int)
  deriving DecidableEq

/-- The identity of a scalar as a key. -/
def identity : Scalar → Identity
  | .null => .null
  | .bool b => .number (if b then 1 else 0)
  | .int n => .number n
  | .float x => match x.toInt? with
    | some n => .number n
    | none => .float x
  | .text s => .text s
  | .octets bs => .octets bs
  | .date d => .date d
  | .timestamp t => match t.instant? with
    | some i => .instant i
    | none => .clock t.clock

/-- Whether two scalars are the same key. -/
def sameKey (a b : Scalar) : Bool := a.identity = b.identity

theorem sameKey_refl (a : Scalar) : a.sameKey a = true := by simp [sameKey]

theorem sameKey_comm (a b : Scalar) : a.sameKey b = b.sameKey a := by
  simp only [sameKey, decide_eq_decide]
  exact eq_comm

theorem sameKey_text (s t : String) : (Scalar.text s).sameKey (.text t) = decide (s = t) := by
  simp [sameKey, identity]

end Scalar

/-- An ordered map. -/
abbrev Entries (α : Type) := List (Scalar × α)

namespace Entries

variable {α : Type}

/-- The value at a key. -/
def get? (key : Scalar) : Entries α → Option α
  | [] => none
  | (k, v) :: rest => if k.sameKey key then some v else get? key rest

/-- Whether there is a value at a key. -/
def has (key : Scalar) (m : Entries α) : Bool := (get? key m).isSome

/-- Puts a value at a key. A key that is there keeps its place and its spelling. -/
def set (key : Scalar) (value : α) : Entries α → Entries α
  | [] => [(key, value)]
  | (k, v) :: rest => if k.sameKey key then (k, value) :: rest else (k, v) :: set key value rest

/-- Sets every entry of the second map in the first. -/
def merge (m : Entries α) : Entries α → Entries α
  | [] => m
  | (k, v) :: rest => merge (set k v m) rest

/-- The map with these entries, of which a later one replaces the value of an earlier one. -/
def ofList (entries : List (Scalar × α)) : Entries α := merge [] entries

/-- The value at a text. -/
def field? (name : String) (m : Entries α) : Option α := get? (.text name) m

end Entries

/-- A value of a matcher file. -/
inductive Value where
  | scalar (s : Scalar)
  | list (items : List Value)
  | pair (first second : Value)
  | map (entries : List (Scalar × Value))
  | set (members : List Scalar)
  /-- A list or a map inside itself. -/
  | enclosing (isMap : Bool)

namespace Value

@[match_pattern] abbrev null : Value := .scalar .null
@[match_pattern] abbrev bool (b : Bool) : Value := .scalar (.bool b)
@[match_pattern] abbrev int (n : Int) : Value := .scalar (.int n)
@[match_pattern] abbrev float (x : Number.Double) : Value := .scalar (.float x)
@[match_pattern] abbrev text (s : String) : Value := .scalar (.text s)

instance : Inhabited Value := ⟨.null⟩

/-- Whether a scalar counts as true. -/
def scalarTruth : Scalar → Bool
  | .null => false
  | .bool b => b
  | .int n => n != 0
  | .float x => !x.isZero
  | .text s => !s.isEmpty
  | .octets bs => !bs.isEmpty
  | .date _ | .timestamp _ => true

/-- Whether a value counts as true: it is neither null nor false, zero or empty. -/
def isTrue : Value → Bool
  | .scalar s => scalarTruth s
  | .list items => !items.isEmpty
  | .pair _ _ => true
  | .map entries => !entries.isEmpty
  | .set members => !members.isEmpty
  | .enclosing _ => true

/-- Whether two scalars are equal as values; what is not a number is not equal to itself. -/
def scalarEq (a b : Scalar) : Bool :=
  match a with
  | .float .nan => false
  | _ => a.sameKey b

mutual

/-- Whether two values are equal: numbers by their value, lists item by item, maps by the value at
each key, in any order. -/
def equal : Value → Value → Bool
  | .scalar a, .scalar b => scalarEq a b
  | .list xs, .list ys => equalItems xs ys
  | .pair a b, .pair c d => equal a c && equal b d
  | .map es, .map fs => es.length == fs.length && equalEntries es fs
  | .set xs, .set ys => xs.length == ys.length && xs.all fun x => ys.any (scalarEq x)
  | .enclosing a, .enclosing b => a == b
  | _, _ => false

/-- Whether two lists are equal item by item. -/
def equalItems : List Value → List Value → Bool
  | [], [] => true
  | x :: xs, y :: ys => equal x y && equalItems xs ys
  | _, _ => false

/-- Whether a map has the values of these entries. -/
def equalEntries : List (Scalar × Value) → List (Scalar × Value) → Bool
  | [], _ => true
  | (k, v) :: rest, fs =>
    (match Entries.get? k fs with
    | some w => equal v w
    | none => false) && equalEntries rest fs

end

mutual

/-- Whether two values are the same in the same spelling: a number as itself and not by its value,
a map with its entries in order. -/
def same : Value → Value → Bool
  | .scalar a, .scalar b => a = b
  | .list xs, .list ys => sameItems xs ys
  | .pair a b, .pair c d => same a c && same b d
  | .map es, .map fs => sameEntries es fs
  | .set xs, .set ys => xs = ys
  | .enclosing a, .enclosing b => a = b
  | _, _ => false

/-- Whether two lists have the same items. -/
def sameItems : List Value → List Value → Bool
  | [], [] => true
  | x :: xs, y :: ys => same x y && sameItems xs ys
  | _, _ => false

/-- Whether two maps have the same entries in the same order. -/
def sameEntries : List (Scalar × Value) → List (Scalar × Value) → Bool
  | [], [] => true
  | (k, v) :: es, (l, w) :: fs => decide (k = l) && same v w && sameEntries es fs
  | _, _ => false

end

mutual

theorem same_iff : ∀ a b : Value, same a b = true ↔ a = b
  | .scalar a, b => by cases b <;> simp [same]
  | .list xs, b => by cases b <;> simp [same, sameItems_iff xs]
  | .pair a b, c => by cases c <;> simp [same, same_iff a, same_iff b]
  | .map es, b => by cases b <;> simp [same, sameEntries_iff es]
  | .set xs, b => by cases b <;> simp [same]
  | .enclosing a, b => by cases b <;> simp [same]

theorem sameItems_iff : ∀ xs ys, sameItems xs ys = true ↔ xs = ys
  | [], ys => by cases ys <;> simp [sameItems]
  | x :: xs, ys => by cases ys <;> simp [sameItems, same_iff x, sameItems_iff xs]

theorem sameEntries_iff : ∀ es fs, sameEntries es fs = true ↔ es = fs
  | [], fs => by cases fs <;> simp [sameEntries]
  | (k, v) :: es, fs => by
    cases fs <;> simp [sameEntries, same_iff v, sameEntries_iff es, Prod.ext_iff]

end

instance : DecidableEq Value := fun a b => decidable_of_iff _ (same_iff a b)

end Value

end LogSift
