import Varsheet.Proofs.Tree.Binding
import Varsheet.Proofs.Tree.Shape

/-!
# The texts of a tree and the ways to them

`Tree.leaves` lists the texts of a tree in the order in which one comes by them, each with the names on the way
to it. If no group gives a name twice, a way leads to one text at most, and is the way that `Value.at?` takes.

* `Tree.of_mem_leaves` : the names on a way and the text at its end are names and texts of the tree
* `Tree.mem_leaves_iff`, `Value.mem_leaves_iff` : a text is listed with a way exactly if the way leads to it
* `Tree.nodup_paths` : no way is listed twice
* `Tree.prune`, `Tree.leaves_prune` : groups without any text can be left out
-/

namespace Varsheet

/-! ## Names and texts -/

section

variable {onKey onText : String → Prop}

mutual

theorem Value.of_mem_leaves :
    ∀ content : Value, content.Everywhere (fun names => ∀ key ∈ names, onKey key) onText →
      ∀ leaf ∈ content.leaves, (∀ key ∈ leaf.1, onKey key) ∧ onText leaf.2
  | .scalar text, able, leaf, member => by
    rw [Value.leaves, List.mem_singleton] at member
    subst member
    exact ⟨nofun, able⟩
  | .group entries, ⟨names, inside⟩, leaf, member => Tree.of_mem_leaves entries names inside leaf member

theorem Tree.of_mem_leaves :
    ∀ entries : List (String × Value), (∀ key ∈ Tree.keys entries, onKey key) →
      Tree.Inside (fun names => ∀ key ∈ names, onKey key) onText entries →
      ∀ leaf ∈ Tree.leaves entries, (∀ key ∈ leaf.1, onKey key) ∧ onText leaf.2
  | [], _, _, _, member => nomatch member
  | (key, content) :: rest, names, ⟨able, inside⟩, leaf, member => by
    obtain ⟨name, names⟩ := List.forall_mem_cons.1 names
    rw [Tree.leaves, List.mem_append, List.mem_map] at member
    obtain ⟨inner, member, rfl⟩ | member := member
    · obtain ⟨onPath, onEnd⟩ := Value.of_mem_leaves content able inner member
      exact ⟨List.forall_mem_cons.2 ⟨name, onPath⟩, onEnd⟩
    · exact Tree.of_mem_leaves rest names inside leaf member

end

end

/-! ## Ways -/

namespace Tree

/-- Every way starts with a name of the tree. -/
theorem exists_cons_of_mem_leaves {entries : List (String × Value)} {leaf : List String × String}
    (member : leaf ∈ leaves entries) : ∃ key path, leaf.1 = key :: path ∧ key ∈ keys entries := by
  induction entries with
  | nil => cases member
  | cons entry rest ih =>
    obtain ⟨name, content⟩ := entry
    rw [leaves, List.mem_append, List.mem_map] at member
    obtain ⟨inner, -, rfl⟩ | member := member
    · exact ⟨name, inner.1, rfl, List.mem_cons_self⟩
    · obtain ⟨key, path, parts, named⟩ := ih member
      exact ⟨key, path, parts, List.mem_cons_of_mem _ named⟩

theorem mem_leaves_cons {name key text : String} {content : Value} {rest : List (String × Value)}
    {path : List String} :
    (key :: path, text) ∈ leaves ((name, content) :: rest) ↔
      (name = key ∧ (path, text) ∈ content.leaves) ∨ (key :: path, text) ∈ leaves rest := by
  rw [leaves, List.mem_append, List.mem_map]
  simp only [Prod.exists, Prod.mk.injEq, List.cons.injEq]
  grind

end Tree

mutual

theorem Value.mem_leaves_iff {path : List String} {text : String} :
    ∀ content : Value, content.Everywhere List.Nodup (fun _ => True) →
      ((path, text) ∈ content.leaves ↔ content.at? path = some (.scalar text))
  | .scalar other, _ => by
    cases path with
    | nil => simp [Value.leaves, Value.at?, eq_comm]
    | cons key path => simp [Value.leaves, Value.at?]
  | .group entries, ⟨distinct, inside⟩ => by
    cases path with
    | nil =>
      -- a way to a text inside of a group has at least one name in it
      refine ⟨fun member => ?_, nofun⟩
      obtain ⟨key, path, parts, -⟩ := Tree.exists_cons_of_mem_leaves member
      cases parts
    | cons key path =>
      rw [Value.leaves, Value.at?, Option.bind_eq_some_iff]
      exact Tree.mem_leaves_iff entries distinct inside

theorem Tree.mem_leaves_iff {key : String} {path : List String} {text : String} :
    ∀ entries : List (String × Value), (Tree.keys entries).Nodup →
      Tree.Inside List.Nodup (fun _ => True) entries →
      ((key :: path, text) ∈ Tree.leaves entries ↔
        ∃ found, Tree.get? entries key = some found ∧ found.at? path = some (.scalar text))
  | [], _, _ => by simp [Tree.leaves, Tree.get?]
  | (name, content) :: rest, distinct, ⟨able, inside⟩ => by
    obtain ⟨fresh, distinct⟩ := List.nodup_cons.1 distinct
    rw [Tree.mem_leaves_cons, Value.mem_leaves_iff content able, Tree.mem_leaves_iff rest distinct inside,
      Tree.get?]
    by_cases same : name = key
    · -- the name does not come again, so nothing further on is listed under it
      have later : Tree.get? rest key = none := Tree.get?_eq_none_iff.2 (same ▸ fresh)
      simp [same, later]
    · simp [same]

end

mutual

theorem Value.nodup_paths :
    ∀ content : Value, content.Everywhere List.Nodup (fun _ => True) → (content.leaves.map Prod.fst).Nodup
  | .scalar _, _ => List.nodup_singleton _
  | .group entries, ⟨distinct, inside⟩ => Tree.nodup_paths entries distinct inside

theorem Tree.nodup_paths :
    ∀ entries : List (String × Value), (Tree.keys entries).Nodup →
      Tree.Inside List.Nodup (fun _ => True) entries → ((Tree.leaves entries).map Prod.fst).Nodup
  | [], _, _ => List.nodup_nil
  | (name, content) :: rest, distinct, ⟨able, inside⟩ => by
    obtain ⟨fresh, distinct⟩ := List.nodup_cons.1 distinct
    have first := Value.nodup_paths content able
    have later := Tree.nodup_paths rest distinct inside
    rw [Tree.leaves, List.map_append, List.map_map, List.nodup_append]
    refine ⟨?_, later, ?_⟩
    · have paths : Prod.fst ∘ (fun leaf : List String × String => (name :: leaf.1, leaf.2)) =
          List.cons name ∘ Prod.fst := rfl
      rw [paths, ← List.map_map]
      exact first.map List.cons_injective
    · -- the ways into the first value start with its name, and those into the others do not
      rintro way member other otherMember rfl
      obtain ⟨inner, -, rfl⟩ := List.mem_map.1 member
      obtain ⟨leaf, member, same⟩ := List.mem_map.1 otherMember
      obtain ⟨key, path, parts, named⟩ := Tree.exists_cons_of_mem_leaves member
      rw [parts] at same
      cases same
      exact fresh named

end

/-! ## Groups without texts -/

mutual

/-- A value without the groups that have no text in them. It may be such a group itself. -/
def Value.prune : Value → Option Value
  | .scalar text => some (.scalar text)
  | .group entries => if (Tree.prune entries).isEmpty then none else some (.group (Tree.prune entries))

/-- A tree without the groups that have no text in them. -/
def Tree.prune : List (String × Value) → List (String × Value)
  | [] => []
  | (key, content) :: rest =>
    match content.prune with
    | none => Tree.prune rest
    | some kept => (key, kept) :: Tree.prune rest

end

mutual

theorem Value.leaves_prune :
    ∀ content : Value, (content.prune.map Value.leaves).getD [] = content.leaves
  | .scalar text => rfl
  | .group entries => by
    rw [Value.leaves, ← Tree.leaves_prune entries, Value.prune]
    split
    · simp_all [Tree.leaves]
    · rfl

theorem Tree.leaves_prune :
    ∀ entries : List (String × Value), Tree.leaves (Tree.prune entries) = Tree.leaves entries
  | [] => rfl
  | (key, content) :: rest => by
    have inner := Value.leaves_prune content
    have later := Tree.leaves_prune rest
    rw [Tree.prune, Tree.leaves]
    cases kept : content.prune with
    | none =>
      rw [kept] at inner
      simp [later, ← inner]
    | some value =>
      rw [kept] at inner
      simp [Tree.leaves, later, ← inner]

end

end Varsheet
