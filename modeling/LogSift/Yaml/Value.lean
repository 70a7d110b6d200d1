import LogSift.Yaml.Node
import LogSift.Yaml.Scalar.Value

/-!
# Values of nodes

`Node.value` is the value of a tree of nodes. Maps are merged first: the entries of the maps under
the merge key come before the entries of a map itself, which win.

Of several faults the one that is nearest to the root counts, and among those the first. `Checked`
keeps account of that.
-/

namespace LogSift.Yaml

/-! ## Faults by level -/

/-- A fault with the number of collections around it. -/
structure Found where
  level : Nat
  fault : Fault

/-- A value, or the fault that counts. -/
abbrev Checked (α : Type) := Except Found α

namespace Checked

/-- A result at a level. -/
def ofExcept {α : Type} (level : Nat) (r : Except Fault α) : Checked α :=
  match r with
  | .ok a => .ok a
  | .error fault => .error ⟨level, fault⟩

/-- A node without value. -/
def refuse {α : Type} (level : Nat) : Checked α := .error ⟨level, .malformed⟩

/-- Two results together. The first fault counts, unless the second is nearer to the root. -/
def both {α β γ : Type} (f : α → β → γ) : Checked α → Checked β → Checked γ
  | .ok a, .ok b => .ok (f a b)
  | .ok _, .error e => .error e
  | .error e, .ok _ => .error e
  | .error e, .error e' => .error (if e'.level < e.level then e' else e)

/-- All results together. -/
def all {α : Type} : List (Checked α) → Checked (List α)
  | [] => .ok []
  | r :: rs => both List.cons r (all rs)

end Checked

/-! ## Entries of maps -/

namespace Node

/-- The entries of a map, those of merged maps first. There are none if something that is merged is
no map. The first argument bounds the number of maps inside each other. -/
def entries? : Nat → List (Node × Node) → Option (List (Node × Node))
  | 0, _ => none
  | fuel + 1, entries => do
    let ofMap (node : Node) : Option (List (Node × Node)) :=
      match node with
      | .map _ entries => entries? fuel entries
      | .enclosing true => some []
      | _ => none
    let mergedBy (key value : Node) : Option (List (Node × Node)) :=
      match key.tag, value with
      | .merge, .list _ maps => return (← maps.mapM ofMap).reverse.flatten
      | .merge, value => ofMap value
      | _, _ => some []
    let merged ← entries.mapM fun (key, value) => mergedBy key value
    let own := (entries.filter fun (key, _) => key.tag ≠ .merge).map fun (key, value) =>
      match key with
      | .scalar .value text => (Node.scalar .text text, value)
      | _ => (key, value)
    return merged.flatten ++ own

/-- The number of nodes on the longest way down. -/
def height : Node → Nat
  | .scalar _ _ => 1
  | .list _ items => 1 + heightAll items
  | .map _ entries => 1 + heightEntries entries
  | .enclosing _ => 1
where
  heightAll : List Node → Nat
    | [] => 0
    | node :: rest => max node.height (heightAll rest)
  heightEntries : List (Node × Node) → Nat
    | [] => 0
    | (key, value) :: rest => max (max key.height value.height) (heightEntries rest)

/-- Whether a node is a map. -/
def isMap : Node → Bool
  | .map _ _ => true
  | _ => false

/-- The text of a scalar. A map stands for the scalar under its value key. -/
def scalarText? : Nat → Node → Option String
  | 0, _ => none
  | fuel + 1, node =>
    match node with
    | .scalar _ text => some text
    | .map _ entries =>
      match entries.find? fun (key, _) => key.tag = .value with
      | some (_, value) => scalarText? fuel value
      | none => none
    | _ => none

end Node

/-! ## Values -/

/-- Whether a type is a type of collections. -/
def Tag.isCollection : Tag → Bool
  | .list | .map | .set | .orderedMap | .pairs => true
  | _ => false

/-- The members of a set in order. A set of integers begins with the least. -/
def inOrder (members : List Scalar) : List Scalar :=
  match members.mapM fun member => match member with
    | .int n => some n
    | _ => none with
  | some numbers => (numbers.mergeSort (· ≤ ·)).map .int
  | none => members

/-- The only entry of a map. -/
def Node.onlyEntry? : Node → Option (Node × Node)
  | .map _ [entry] => some entry
  | _ => none

mutual

/-- The value of a node with a number of collections around it. The first argument bounds the
number of nodes inside each other. -/
def Node.valueAt : Nat → Nat → Node → Checked Value
  | 0, level, _ => .refuse level
  | fuel + 1, level, node =>
    match node with
    | .enclosing isMap => .ok (.enclosing isMap)
    | node =>
      if node.tag.isCollection then node.collectionAt fuel (level + 1)
      else Checked.ofExcept level do
        match node.scalarText? (fuel + 1) with
        | some text =>
          if node.tag = .timestamp ∧ node.isMap then throw .mapForTimestamp
          return .scalar (← readScalar node.tag text)
        | none => throw .malformed

/-- The value of a collection whose parts have a number of collections around them. -/
def Node.collectionAt : Nat → Nat → Node → Checked Value
  | 0, level, _ => .refuse level
  | fuel + 1, level, node =>
    match node.tag, node with
    | .list, .list _ items => (Checked.all (items.map (·.valueAt fuel level))).map .list
    | .map, .map _ entries =>
      (Node.entriesAt fuel level entries).map fun es => .map (Entries.ofList es)
    | .set, .map _ entries =>
      (Node.entriesAt fuel level entries).map fun es =>
        .set (inOrder ((Entries.ofList es).map (·.1)))
    | .pairs, .list _ items | .orderedMap, .list _ items =>
      (Checked.all (items.map (Node.pairAt fuel level ·))).map .list
    | _, _ => .refuse level

/-- The values of the entries of a map. The keys have to be scalars. -/
def Node.entriesAt : Nat → Nat → List (Node × Node) → Checked (List (Scalar × Value))
  | 0, level, _ => .refuse level
  | fuel + 1, level, entries =>
    match Node.entries? fuel entries with
    | none => .refuse level
    | some entries => Checked.all (entries.map fun (key, value) =>
        Checked.both Prod.mk (Node.keyAt fuel level key) (value.valueAt fuel level))

/-- The value of a key. -/
def Node.keyAt : Nat → Nat → Node → Checked Scalar
  | 0, level, _ => .refuse level
  | fuel + 1, level, key =>
    if key.tag.isCollection then .refuse level
    else match key.valueAt fuel level with
      | .ok (.scalar s) => .ok s
      | .ok _ => .refuse level
      | .error e => .error e

/-- The key and the value of a map of one entry as a pair. -/
def Node.pairAt : Nat → Nat → Node → Checked Value
  | 0, level, _ => .refuse level
  | fuel + 1, level, node =>
    match node.onlyEntry? with
    | some (key, value) =>
      Checked.both Value.pair (key.valueAt fuel level) (value.valueAt fuel level)
    | none => .refuse level

end

/-- The value of the root of a document. -/
def Node.value (node : Node) : Except Fault Value :=
  match node.valueAt (4 * node.height + 4) 0 with
  | .ok v => .ok v
  | .error found => .error found.fault

end LogSift.Yaml
