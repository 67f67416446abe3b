import Varsheet.Proofs.Tree.Binding

/-!
# Trees in another order

Two trees can differ in nothing but the order of their entries, in any of their groups. They have the same names at
the root, texts with the same ways to them, and under each name values that differ in nothing else either.

* `Value.Reordered`, `Tree.Reordered` : equal up to the order of entries, at any depth
* `Tree.Reordered.keys_perm`, `Tree.Reordered.leaves_perm` : the names at the root, and the texts
* `Tree.Reordered.exists_get?` : the values under a name
-/

namespace Varsheet

mutual

/-- Two values that are equal up to the order of entries, at any depth. -/
inductive Value.Reordered : Value → Value → Prop
  | scalar (text : String) : Value.Reordered (.scalar text) (.scalar text)
  | group {entries others : Tree} (inside : Tree.Reordered entries others) :
      Value.Reordered (.group entries) (.group others)

/-- Two trees that are equal up to the order of entries, at any depth. -/
inductive Tree.Reordered : Tree → Tree → Prop
  | nil : Tree.Reordered [] []
  | cons {value other : Value} {rest others : Tree} (key : String)
      (first : Value.Reordered value other) (later : Tree.Reordered rest others) :
      Tree.Reordered ((key, value) :: rest) ((key, other) :: others)
  | swap (first second : String × Value) (rest : Tree) :
      Tree.Reordered (first :: second :: rest) (second :: first :: rest)
  | trans {entries between others : Tree} (front : Tree.Reordered entries between)
      (back : Tree.Reordered between others) : Tree.Reordered entries others

end

mutual

theorem Value.Reordered.refl : ∀ value : Value, value.Reordered value
  | .scalar text => .scalar text
  | .group entries => .group (Tree.Reordered.refl entries)

theorem Tree.Reordered.refl : ∀ entries : List (String × Value), Tree.Reordered entries entries
  | [] => .nil
  | (key, value) :: rest => .cons key (Value.Reordered.refl value) (Tree.Reordered.refl rest)

end

theorem Value.Reordered.trans {value between other : Value} (front : value.Reordered between)
    (back : between.Reordered other) : value.Reordered other := by
  cases front with
  | scalar text => exact back
  | group inside =>
    cases back with
    | group further => exact .group (inside.trans further)

/-! ## Names and texts -/

mutual

theorem Value.Reordered.leaves_perm {value other : Value} :
    value.Reordered other → value.leaves.Perm other.leaves
  | .scalar _ => .refl _
  | .group inside => inside.leaves_perm

theorem Tree.Reordered.leaves_perm {entries others : Tree} :
    Tree.Reordered entries others → (Tree.leaves entries).Perm (Tree.leaves others)
  | .nil => .refl _
  | .cons _ first later => by
    rw [Tree.leaves, Tree.leaves]
    exact (first.leaves_perm.map _).append later.leaves_perm
  | .swap (_, _) (_, _) _ => by
    simp only [Tree.leaves, ← List.append_assoc]
    exact List.perm_append_comm.append_right _
  | .trans front back => front.leaves_perm.trans back.leaves_perm

end

theorem Tree.Reordered.keys_perm {entries others : Tree} :
    Tree.Reordered entries others → (Tree.keys entries).Perm (Tree.keys others)
  | .nil => .refl _
  | .cons key _ later => later.keys_perm.cons key
  | .swap first second _ => .swap second.1 first.1 _
  | .trans front back => front.keys_perm.trans back.keys_perm

theorem Tree.get?_cons (entry : String × Value) (rest : Tree) (key : String) :
    Tree.get? (entry :: rest) key = if entry.1 = key then some entry.2 else rest.get? key := rfl

theorem Tree.get?_swap {first second : String × Value} (ne : first.1 ≠ second.1) (rest : Tree) (key : String) :
    Tree.get? (second :: first :: rest) key = Tree.get? (first :: second :: rest) key := by
  by_cases here : first.1 = key
  · simp [Tree.get?_cons, ← here, ne.symm]
  · simp [Tree.get?_cons, here]

/-- Where no name is given twice, the values under a name differ in their order at most. -/
theorem Tree.Reordered.exists_get? {entries others : Tree} {key : String} {value : Value} :
    entries.Reordered others → entries.keys.Nodup → entries.get? key = some value →
      ∃ other, others.get? key = some other ∧ value.Reordered other
  | .nil => nofun
  | .cons name first later => by
    intro distinct bound
    rw [Tree.get?_cons] at bound ⊢
    by_cases here : name = key
    · rw [if_pos here] at bound ⊢
      cases bound
      exact ⟨_, rfl, first⟩
    · rw [if_neg here] at bound ⊢
      exact later.exists_get? (List.nodup_cons.1 distinct).2 bound
  | .swap first second rest => by
    intro distinct bound
    have ne : first.1 ≠ second.1 := fun same => (List.nodup_cons.1 distinct).1 (same ▸ List.mem_cons_self)
    exact ⟨value, (Tree.get?_swap ne rest key).trans bound, .refl value⟩
  | .trans front back => by
    intro distinct bound
    -- the tree between has the same names, so they are distinct there as well
    obtain ⟨between, bound, first⟩ := front.exists_get? distinct bound
    obtain ⟨other, bound, second⟩ := back.exists_get? (front.keys_perm.nodup_iff.1 distinct) bound
    exact ⟨other, bound, first.trans second⟩

end Varsheet
