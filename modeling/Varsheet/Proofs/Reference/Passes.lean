import Varsheet.Proofs.Reference.Substitution

/-!
# Replacing references again

A pass over a tree puts in place what other names stood for before it, which may be a reference again. The texts of the
tree decide what becomes of it: each of them stays as it is or gives way to the texts of a value at the root.

* `Tree.leaves_substitute` : the texts after a substitution
* `Tree.substitute_eq_self_iff` : when a substitution changes nothing
* `Reference.resolveEntries_snd` : a pass reports the texts that are references, in order
* `Reference.resolve_eq_self_iff` : when a pass changes nothing, and when there is nothing left for a second one
-/

namespace Varsheet

/-! ## The texts of a tree -/

section

variable (target : String → Option Value)

/-- What stands in the place of a text afterwards, with the ways to it from the root. -/
def graft (leaf : List String × String) : List (List String × String) :=
  ((target leaf.2).getD (.scalar leaf.2)).leaves.map fun inner => (leaf.1 ++ inner.1, inner.2)

theorem graft_cons (key : String) (leaf : List String × String) :
    graft target (key :: leaf.1, leaf.2) =
      (graft target leaf).map fun inner => (key :: inner.1, inner.2) := by
  simp [graft]

mutual

theorem Value.leaves_substitute :
    ∀ value : Value, (value.substitute target).leaves = value.leaves.flatMap (graft target)
  | .scalar text => by
    rw [Value.substitute, Value.leaves, List.flatMap_singleton, graft]
    simp
  | .group entries => Tree.leaves_substitute entries

theorem Tree.leaves_substitute :
    ∀ entries : List (String × Value),
      Tree.leaves (Tree.substitute target entries) = (Tree.leaves entries).flatMap (graft target)
  | [] => rfl
  | (key, value) :: rest => by
    rw [Tree.substitute, Tree.leaves, Tree.leaves, List.flatMap_append, List.flatMap_map,
      Value.leaves_substitute value, Tree.leaves_substitute rest, List.map_flatMap]
    simp only [graft_cons]

end

mutual

theorem Value.substitute_eq_self_iff :
    ∀ value : Value, value.substitute target = value ↔
      ∀ leaf ∈ value.leaves, ∀ found, target leaf.2 = some found → found = .scalar leaf.2
  | .scalar text => by
    rw [Value.substitute, Value.leaves, List.forall_mem_singleton]
    cases target text <;> simp
  | .group entries => by
    rw [Value.substitute, Value.group.injEq]
    exact Tree.substitute_eq_self_iff entries

theorem Tree.substitute_eq_self_iff :
    ∀ entries : List (String × Value), Tree.substitute target entries = entries ↔
      ∀ leaf ∈ Tree.leaves entries, ∀ found, target leaf.2 = some found → found = .scalar leaf.2
  | [] => by simp [Tree.substitute, Tree.leaves]
  | (key, value) :: rest => by
    rw [Tree.substitute, Tree.leaves, List.forall_mem_append, List.forall_mem_map, List.cons.injEq, Prod.mk.injEq,
      eq_self_iff_true, true_and, Value.substitute_eq_self_iff value, Tree.substitute_eq_self_iff rest]

end

end

namespace Reference

/-- The text is a reference: the marker with a name of the root behind it. -/
def IsReference (symbol : String) (tree : Tree) (text : String) : Prop :=
  ∃ key ∈ tree.keys, text = symbol ++ key

instance (symbol : String) (tree : Tree) (text : String) : Decidable (IsReference symbol tree text) :=
  inferInstanceAs (Decidable (∃ key ∈ tree.keys, text = symbol ++ key))

variable {symbol : String} {tree : Tree}

theorem target?_eq_none_iff_not_isReference {text : String} :
    target? symbol tree text = none ↔ ¬ IsReference symbol tree text := by
  rw [target?_eq_none_iff]
  constructor
  · rintro unknown ⟨key, named, parts⟩
    exact unknown key parts named
  · intro plain key parts named
    exact plain ⟨key, named, parts⟩

/-! ## Reports -/

/-- What is reported for a text, with the last name on the way to it. A text without any name on its way stands
under `key`. -/
def report? (symbol : String) (root : Tree) (key : String) (leaf : List String × String) : Option Event :=
  if IsReference symbol root leaf.2 then some (.substituting (leaf.1.getLastD key) leaf.2) else none

mutual

theorem resolveValue_snd (symbol : String) (root : Tree) (key : String) :
    ∀ value : Value, (resolveValue symbol root key value).2 = value.leaves.filterMap (report? symbol root key)
  | .scalar text => by
    rw [resolveValue, Value.leaves, List.filterMap_cons, report?]
    by_cases reference : IsReference symbol root text
    · rw [if_pos reference]
      cases found : target? symbol root text with
      | none => exact absurd reference (target?_eq_none_iff_not_isReference.1 found)
      | some value => rfl
    · rw [if_neg reference, target?_eq_none_iff_not_isReference.2 reference]
      rfl
  | .group entries => resolveEntries_snd symbol root key entries

theorem resolveEntries_snd (symbol : String) (root : Tree) (key : String) :
    ∀ entries : List (String × Value),
      (resolveEntries symbol root entries).2 = (Tree.leaves entries).filterMap (report? symbol root key)
  | [] => rfl
  | (name, value) :: rest => by
    -- the name in front of a way is the last one only if no other follows
    have behind : report? symbol root key ∘ (fun leaf => (name :: leaf.1, leaf.2)) = report? symbol root name := by
      funext leaf
      simp only [Function.comp_apply, report?, List.getLastD_cons]
    rw [resolveEntries, Tree.leaves, List.filterMap_append, List.filterMap_map, behind,
      ← resolveValue_snd symbol root name value, ← resolveEntries_snd symbol root key rest]

end

/-! ## Passes -/

theorem result_resolve_of_marked (marked : symbol ≠ "") (tree : Tree) :
    (resolve symbol tree).result = .ok (Tree.substitute (target? symbol tree) tree) := by
  rw [result_resolve, if_neg marked]

/-- Only a reference whose root value is the same text can stay. -/
theorem substitute_eq_self_iff_literal :
    Tree.substitute (target? symbol tree) tree = tree ↔
      ∀ leaf ∈ Tree.leaves tree, ∀ key ∈ tree.keys, leaf.2 = symbol ++ key →
        tree.get? key = some (.scalar leaf.2) := by
  rw [Tree.substitute_eq_self_iff]
  refine forall₂_congr fun leaf _ => ?_
  constructor
  · intro literal key named parts
    obtain ⟨value, bound⟩ := Tree.exists_get?_of_mem named
    rw [bound, literal value (target?_eq_some_iff.2 ⟨key, parts, bound⟩)]
  · intro literal value found
    obtain ⟨key, parts, bound⟩ := target?_eq_some_iff.1 found
    have same := literal key (Tree.mem_keys_of_get? bound) parts
    rw [bound] at same
    exact Option.some.inj same

/-- If no reference leads to a value with references in it, then a pass leaves none. -/
theorem not_isReference_of_substitute
    (plain : ∀ leaf ∈ Tree.leaves tree, ∀ value ∈ target? symbol tree leaf.2,
      ∀ inner ∈ value.leaves, ¬ IsReference symbol tree inner.2) :
    ∀ leaf ∈ Tree.leaves (Tree.substitute (target? symbol tree) tree), ¬ IsReference symbol tree leaf.2 := by
  intro leaf member
  rw [Tree.leaves_substitute, List.mem_flatMap] at member
  obtain ⟨old, there, member⟩ := member
  obtain ⟨inner, inside, rfl⟩ := List.mem_map.1 member
  -- the text was there before, or else it has come with the value of a reference
  cases found : target? symbol tree old.2 with
  | none =>
    rw [found, Option.getD_none, Value.leaves, List.mem_singleton] at inside
    rw [inside]
    exact target?_eq_none_iff_not_isReference.1 found
  | some value =>
    rw [found] at inside
    exact plain old there value found inner inside

/-- A tree without references is left as it is, and nothing is reported but that there were none. -/
theorem resolve_of_no_reference (symbol : String) {tree : Tree}
    (plain : ∀ leaf ∈ Tree.leaves tree, ¬ IsReference symbol tree leaf.2) :
    (resolve symbol tree).result = .ok tree ∧ ∀ event ∈ (resolve symbol tree).events, event = .resolved 0 := by
  constructor
  · have same : Tree.substitute (target? symbol tree) tree = tree := by
      refine (Tree.substitute_eq_self_iff _ tree).2 fun leaf member found hit => ?_
      rw [target?_eq_none_iff_not_isReference.2 (plain leaf member)] at hit
      cases hit
    rw [result_resolve, same, ite_self]
  · have silent : (resolveEntries symbol tree tree).2 = [] := by
      rw [resolveEntries_snd symbol tree "" tree, List.filterMap_eq_nil_iff]
      intro leaf member
      rw [report?, if_neg (plain leaf member)]
    unfold resolve
    split
    · exact nofun
    · simp [silent]

/-- A pass changes nothing exactly if every reference stands for itself. If no reference leads to a value with references
in it, then none is left behind the pass, and a second pass replaces nothing. -/
theorem resolve_eq_self_iff (symbol : String) (tree : Tree) (marked : symbol ≠ "") :
    ((resolve symbol tree).result = .ok tree ↔
      ∀ leaf ∈ Tree.leaves tree, ∀ key ∈ tree.keys, leaf.2 = symbol ++ key →
        tree.get? key = some (.scalar leaf.2)) ∧
    ((∀ leaf ∈ Tree.leaves tree, ∀ key ∈ tree.keys, leaf.2 = symbol ++ key →
        ∀ value ∈ tree.get? key, ∀ inner ∈ value.leaves, ¬ IsReference symbol tree inner.2) →
      ∃ result, (resolve symbol tree).result = .ok result ∧
        (∀ leaf ∈ Tree.leaves result, ¬ IsReference symbol result leaf.2) ∧
        (resolve symbol result).result = .ok result ∧
        ∀ event ∈ (resolve symbol result).events, event = .resolved 0) := by
  constructor
  · rw [result_resolve_of_marked marked, Except.ok.injEq, substitute_eq_self_iff_literal]
  · intro plain
    -- the names at the root are the same behind the pass, so the references are too
    have left : ∀ leaf ∈ Tree.leaves (Tree.substitute (target? symbol tree) tree),
        ¬ IsReference symbol (Tree.substitute (target? symbol tree) tree) leaf.2 := by
      unfold IsReference
      rw [Tree.keys_substitute]
      refine not_isReference_of_substitute fun leaf member value found => ?_
      obtain ⟨key, parts, bound⟩ := target?_eq_some_iff.1 found
      exact plain leaf member key (Tree.mem_keys_of_get? bound) parts value bound
    exact ⟨_, result_resolve_of_marked marked tree, left, resolve_of_no_reference symbol left⟩

/-- A name that stands for itself, and a group in the place of a reference, which has a marker alone in it. -/
theorem resolve_eq_self_iff_grafted :
    "$" ≠ "" ∧
      (resolve "$" [("a", .scalar "$a"), ("b", .group [("c", .scalar "$a"), ("d", .scalar "$e")])]).result =
        .ok [("a", .scalar "$a"), ("b", .group [("c", .scalar "$a"), ("d", .scalar "$e")])] ∧
      (resolve "$" [("a", .group [("b", .scalar "$")]), ("c", .group [("a", .scalar "$a")])]).result =
        .ok [("a", .group [("b", .scalar "$")]), ("c", .group [("a", .group [("b", .scalar "$")])])] ∧
      (resolve "$" [("a", .group [("b", .scalar "$")]), ("c", .group [("a", .group [("b", .scalar "$")])])]).result =
        .ok [("a", .group [("b", .scalar "$")]), ("c", .group [("a", .group [("b", .scalar "$")])])] := by
  have literal := (resolve_eq_self_iff "$"
    [("a", .scalar "$a"), ("b", .group [("c", .scalar "$a"), ("d", .scalar "$e")])] (by decide)).1.2 (by decide)
  have once : (resolve "$" [("a", .group [("b", .scalar "$")]), ("c", .group [("a", .scalar "$a")])]).result =
      .ok [("a", .group [("b", .scalar "$")]), ("c", .group [("a", .group [("b", .scalar "$")])])] := by decide
  obtain ⟨result, resolved, -, again, -⟩ := (resolve_eq_self_iff "$"
    [("a", .group [("b", .scalar "$")]), ("c", .group [("a", .scalar "$a")])] (by decide)).2 (by decide)
  rw [once] at resolved
  cases resolved
  exact ⟨by decide, literal, once, again⟩

end Reference

end Varsheet
