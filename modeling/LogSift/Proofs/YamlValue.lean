import LogSift.Proofs.JsonValue
import LogSift.Yaml.Basic

/-!
# The values of YAML documents

No map in the value of a document has a key twice.

* `Checked.both_eq_ok`, `Checked.mem_of_all`: results that are put together.
* `Gives`: what the readers of nodes give, at any fuel (`gives`).
* `hasDistinctKeys_of_read`: what a document gives.
-/

namespace LogSift.Yaml

namespace Checked

variable {α β γ : Type}

theorem both_eq_ok {f : α → β → γ} {x : Checked α} {y : Checked β} {c : γ} :
    both f x y = .ok c ↔ ∃ a b, x = .ok a ∧ y = .ok b ∧ f a b = c := by
  cases x with
  | error e =>
    cases y with
    | error e' => simp [both]
    | ok b => simp [both]
  | ok a =>
    cases y with
    | error e => simp [both]
    | ok b => simp [both]

/-- Each of the results is there. -/
theorem mem_of_all {results : List (Checked α)} {as : List α} (h : all results = .ok as) :
    ∀ a ∈ as, .ok a ∈ results := by
  induction results generalizing as with
  | nil =>
    cases h
    simp
  | cons result results ih =>
    obtain ⟨a, more, rfl, hmore, rfl⟩ := both_eq_ok.1 h
    refine List.forall_mem_cons.2 ⟨List.mem_cons_self, fun b hb => ?_⟩
    exact List.mem_cons_of_mem _ (ih hmore b hb)

theorem ofExcept_eq_ok {level : Nat} {result : Except Fault α} {a : α} :
    ofExcept level result = .ok a ↔ result = .ok a := by
  cases result with
  | error fault => simp [ofExcept]
  | ok b => simp [ofExcept]

end Checked

/-- What the readers of nodes give: values of which no map has a key twice. -/
structure Gives (fuel : Nat) : Prop where
  value : ∀ {level : Nat} {node : Node} {v : Value}, node.valueAt fuel level = .ok v →
    v.hasDistinctKeys = true
  collection : ∀ {level : Nat} {node : Node} {v : Value}, node.collectionAt fuel level = .ok v →
    v.hasDistinctKeys = true
  entries : ∀ {level : Nat} {nodes : List (Node × Node)} {es : List (Scalar × Value)},
    Node.entriesAt fuel level nodes = .ok es → ∀ e ∈ es, e.2.hasDistinctKeys = true
  pair : ∀ {level : Nat} {node : Node} {v : Value}, Node.pairAt fuel level node = .ok v →
    v.hasDistinctKeys = true

/-- Values that are read at one fuel from nodes. -/
theorem hasDistinctKeys_list {read : Node → Checked Value} {nodes : List Node} {items : List Value}
    (h : ∀ node v, read node = .ok v → v.hasDistinctKeys = true)
    (hitems : Checked.all (nodes.map read) = .ok items) :
    (Value.list items).hasDistinctKeys = true := by
  refine Value.itemsDistinct_iff.2 fun v hv => ?_
  obtain ⟨node, -, hnode⟩ := List.mem_map.1 (Checked.mem_of_all hitems v hv)
  exact h node v hnode

theorem hasDistinctKeys_ofList {es : List (Scalar × Value)}
    (h : ∀ e ∈ es, e.2.hasDistinctKeys = true) :
    (Value.map (Entries.ofList es)).hasDistinctKeys = true := by
  refine Value.hasDistinctKeys_map_iff.2 ⟨Entries.isDistinct_nil.merge es, fun e he => ?_⟩
  obtain ⟨e', he', hv⟩ := Entries.exists_of_mem_merge he
  exact hv ▸ h e' he'

theorem gives (fuel : Nat) : Gives fuel := by
  induction fuel with
  | zero =>
    refine ⟨fun h => ?_, fun h => ?_, fun h => ?_, fun h => ?_⟩
    · rw [Node.valueAt] at h; cases h
    · rw [Node.collectionAt] at h; cases h
    · rw [Node.entriesAt] at h; cases h
    · rw [Node.pairAt] at h; cases h
  | succ fuel ih =>
    refine ⟨fun {level node v} h => ?_, fun {level node v} h => ?_, fun {level nodes es} h => ?_,
      fun {level node v} h => ?_⟩
    · rw [Node.valueAt.eq_def] at h
      dsimp only at h
      split at h
      · cases h
        rfl
      split at h
      · exact ih.collection h
      · have h := Checked.ofExcept_eq_ok.1 h
        split at h
        · split at h
          · cases h
          · obtain ⟨s, -, h⟩ := Outcome.bind_eq_ok.1 h
            cases h
            rfl
        · cases h
    · rw [Node.collectionAt.eq_def] at h
      dsimp only at h
      split at h
      · obtain ⟨items, hitems, rfl⟩ := Outcome.map_eq_ok.1 h
        exact hasDistinctKeys_list (fun _ _ => ih.value) hitems
      · obtain ⟨es, hes, rfl⟩ := Outcome.map_eq_ok.1 h
        exact hasDistinctKeys_ofList (ih.entries hes)
      · obtain ⟨es, hes, rfl⟩ := Outcome.map_eq_ok.1 h
        rfl
      · obtain ⟨items, hitems, rfl⟩ := Outcome.map_eq_ok.1 h
        exact hasDistinctKeys_list (fun _ _ => ih.pair) hitems
      · obtain ⟨items, hitems, rfl⟩ := Outcome.map_eq_ok.1 h
        exact hasDistinctKeys_list (fun _ _ => ih.pair) hitems
      · cases h
    · rw [Node.entriesAt] at h
      split at h
      · cases h
      · intro e he
        obtain ⟨⟨key, value⟩, -, hboth⟩ := List.mem_map.1 (Checked.mem_of_all h e he)
        obtain ⟨k, v, -, hv, rfl⟩ := Checked.both_eq_ok.1 hboth
        exact ih.value hv
    · rw [Node.pairAt] at h
      split at h
      · obtain ⟨a, b, ha, hb, rfl⟩ := Checked.both_eq_ok.1 h
        exact Bool.and_eq_true_iff.2 ⟨ih.value ha, ih.value hb⟩
      · cases h

/-- No map in the value of a document has a key twice. -/
theorem hasDistinctKeys_of_read {text : String} {v : Value} (h : read text = .ok v) :
    v.hasDistinctKeys = true := by
  obtain ⟨node?, -, h⟩ := Outcome.bind_eq_ok.1 h
  cases node? with
  | none =>
    cases h
    rfl
  | some node =>
    dsimp only at h
    unfold Node.value at h
    split at h
    · next hv =>
      cases h
      exact (gives _).value hv
    · cases h

end LogSift.Yaml
