import Varsheet.Proofs.Reference.Reports
import Varsheet.Proofs.Tree.Reordering

/-!
# References in another order

The order in which the entries of a tree are given makes no difference to its references. Two trees that are equal up
to the order of entries stay so when their references are replaced, although the values that are put in place are
themselves only equal up to their order.

The two steps are taken one after another: first the same values are put into a tree in another order, then values in
another order are put into the same tree.

* `Tree.Reordered.substitute` : the same substitution in trees of different order
* `Tree.reordered_substitute` : substitutions by values of different order in the same tree
* `Reference.resolve_reordered` : replacing the references of trees in different order
-/

namespace Varsheet

/-! ## Substitution -/

section

variable {target other : String → Option Value}

mutual

theorem Value.Reordered.substitute {value changed : Value} :
    value.Reordered changed → (value.substitute target).Reordered (changed.substitute target)
  | .scalar text => .refl _
  | .group inside => .group inside.substitute

theorem Tree.Reordered.substitute {entries others : Tree} :
    Tree.Reordered entries others →
      Tree.Reordered (Tree.substitute target entries) (Tree.substitute target others)
  | .nil => .nil
  | .cons key first later => .cons key first.substitute later.substitute
  | .swap _ _ _ => .swap _ _ _
  | .trans front back => front.substitute.trans back.substitute

end

mutual

theorem Value.reordered_substitute
    (related : ∀ text, ((target text).getD (.scalar text)).Reordered ((other text).getD (.scalar text))) :
    ∀ value : Value, (value.substitute target).Reordered (value.substitute other)
  | .scalar text => related text
  | .group entries => .group (Tree.reordered_substitute related entries)

theorem Tree.reordered_substitute
    (related : ∀ text, ((target text).getD (.scalar text)).Reordered ((other text).getD (.scalar text))) :
    ∀ entries : List (String × Value),
      Tree.Reordered (Tree.substitute target entries) (Tree.substitute other entries)
  | [] => .nil
  | (key, value) :: rest =>
    .cons key (Value.reordered_substitute related value) (Tree.reordered_substitute related rest)

end

end

/-- Every group of a tree is still a group of the result, with the same names in the same order. -/
def Tree.KeepsGroups (tree result : Tree) : Prop :=
  ∀ path entries, (Value.group tree).at? path = some (.group entries) →
    ∃ replaced, (Value.group result).at? path = some (.group replaced) ∧ Tree.keys replaced = Tree.keys entries

theorem Tree.keepsGroups_substitute (target : String → Option Value) (tree : Tree) :
    tree.KeepsGroups (Tree.substitute target tree) := by
  intro path entries there
  exact ⟨_, Value.at?_substitute target there, Tree.keys_substitute entries⟩

namespace Reference

/-- The event reports that a reference has been replaced. -/
def isReplacement : Event → Bool
  | .substituting _ _ => true
  | _ => false

/-- How many references a pass has replaced. -/
def replacements (pass : Job Tree) : Nat :=
  pass.events.countP isReplacement

variable {symbol : String} {tree other : Tree}

theorem isReference_iff_of_reordered (reordered : tree.Reordered other) {text : String} :
    IsReference symbol tree text ↔ IsReference symbol other text := by
  simp only [IsReference, reordered.keys_perm.mem_iff]

/-- What a text stands for in one tree is what it stands for in the other, up to the order of entries. -/
theorem reordered_target? (symbol : String) (reordered : tree.Reordered other) (distinct : tree.keys.Nodup)
    (text : String) :
    ((target? symbol tree text).getD (.scalar text)).Reordered
      ((target? symbol other text).getD (.scalar text)) := by
  cases found : target? symbol tree text with
  | none =>
    have plain : ¬ IsReference symbol other text := by
      rw [← isReference_iff_of_reordered reordered]
      exact target?_eq_none_iff_not_isReference.1 found
    rw [target?_eq_none_iff_not_isReference.2 plain]
    exact .refl _
  | some value =>
    obtain ⟨key, parts, bound⟩ := target?_eq_some_iff.1 found
    obtain ⟨otherValue, otherBound, related⟩ := reordered.exists_get? distinct bound
    rw [target?_eq_some_iff.2 ⟨key, parts, otherBound⟩]
    exact related

/-- Both passes report the same replacements, in different order. -/
theorem events_resolveEntries_perm (symbol : String) (reordered : tree.Reordered other) :
    (resolveEntries symbol tree tree).2.Perm (resolveEntries symbol other other).2 := by
  -- which texts are references depends on the names at the root, not on their order
  have same : report? symbol tree "" = report? symbol other "" := by
    funext leaf
    simp only [report?, isReference_iff_of_reordered reordered]
  rw [resolveEntries_snd symbol tree "", resolveEntries_snd symbol other "", same]
  exact reordered.leaves_perm.filterMap _

theorem events_resolve_perm (symbol : String) (reordered : tree.Reordered other) :
    (resolve symbol tree).events.Perm (resolve symbol other).events := by
  have events := events_resolveEntries_perm symbol reordered
  have empty : tree = [] ↔ other = [] := by
    have sameLength : tree.length = other.length := by simpa [Tree.keys] using reordered.keys_perm.length_eq
    rw [← List.length_eq_zero_iff, sameLength, List.length_eq_zero_iff]
  simp only [events_resolve, events.length_eq, empty]
  split
  · exact .refl _
  · exact events.append_right _

/-- Replacing references in trees that are equal up to the order of entries gives such trees again, with as many
replacements. Either tree keeps the order of its own groups. -/
theorem resolve_reordered (symbol : String) {tree other : Tree} (reordered : tree.Reordered other)
    (distinct : tree.keys.Nodup) :
    ∃ result otherResult, (resolve symbol tree).result = .ok result ∧
      (resolve symbol other).result = .ok otherResult ∧ result.Reordered otherResult ∧
      replacements (resolve symbol tree) = replacements (resolve symbol other) ∧
      (resolve symbol tree).events.Perm (resolve symbol other).events ∧
      tree.KeepsGroups result ∧ other.KeepsGroups otherResult := by
  have events := events_resolve_perm symbol reordered
  have count : replacements (resolve symbol tree) = replacements (resolve symbol other) := events.countP_eq _
  by_cases unmarked : symbol = ""
  · refine ⟨tree, other, ?_, ?_, reordered, count, events, ?_, ?_⟩
    · rw [result_resolve, if_pos unmarked]
    · rw [result_resolve, if_pos unmarked]
    · exact fun path entries there => ⟨entries, there, rfl⟩
    · exact fun path entries there => ⟨entries, there, rfl⟩
  · -- the tree in another order with the same values put in, then the values in another order
    have moved : Tree.Reordered (Tree.substitute (target? symbol tree) tree)
        (Tree.substitute (target? symbol tree) other) := reordered.substitute
    have changed := Tree.reordered_substitute (reordered_target? symbol reordered distinct) other
    refine ⟨_, _, result_resolve_of_marked unmarked tree, result_resolve_of_marked unmarked other, moved.trans changed,
      count, events, ?_, ?_⟩
    · exact Tree.keepsGroups_substitute _ tree
    · exact Tree.keepsGroups_substitute _ other

/-- Two groups that refer to each other, in the opposite order at both depths. -/
theorem resolve_reordered_crossed :
    Tree.Reordered [("a", .group [("b", .scalar "$c"), ("d", .scalar "1")]), ("c", .group [("e", .scalar "$a")])]
        [("c", .group [("e", .scalar "$a")]), ("a", .group [("d", .scalar "1"), ("b", .scalar "$c")])] ∧
      (resolve "$" [("a", .group [("b", .scalar "$c"), ("d", .scalar "1")]),
          ("c", .group [("e", .scalar "$a")])]).result =
        .ok [("a", .group [("b", .group [("e", .scalar "$a")]), ("d", .scalar "1")]),
          ("c", .group [("e", .group [("b", .scalar "$c"), ("d", .scalar "1")])])] ∧
      (resolve "$" [("c", .group [("e", .scalar "$a")]),
          ("a", .group [("d", .scalar "1"), ("b", .scalar "$c")])]).result =
        .ok [("c", .group [("e", .group [("d", .scalar "1"), ("b", .scalar "$c")])]),
          ("a", .group [("d", .scalar "1"), ("b", .group [("e", .scalar "$a")])])] ∧
      Tree.Reordered
        [("a", .group [("b", .group [("e", .scalar "$a")]), ("d", .scalar "1")]),
          ("c", .group [("e", .group [("b", .scalar "$c"), ("d", .scalar "1")])])]
        [("c", .group [("e", .group [("d", .scalar "1"), ("b", .scalar "$c")])]),
          ("a", .group [("d", .scalar "1"), ("b", .group [("e", .scalar "$a")])])] := by
  have reordered : Tree.Reordered
      [("a", .group [("b", .scalar "$c"), ("d", .scalar "1")]), ("c", .group [("e", .scalar "$a")])]
      [("c", .group [("e", .scalar "$a")]), ("a", .group [("d", .scalar "1"), ("b", .scalar "$c")])] :=
    .trans (.swap _ _ _) (.cons "c" (.refl _) (.cons "a" (.group (.swap _ _ _)) .nil))
  obtain ⟨result, otherResult, resolved, otherResolved, related, -⟩ :=
    resolve_reordered "$" reordered (by decide)
  have first : (resolve "$" [("a", .group [("b", .scalar "$c"), ("d", .scalar "1")]),
      ("c", .group [("e", .scalar "$a")])]).result =
        .ok [("a", .group [("b", .group [("e", .scalar "$a")]), ("d", .scalar "1")]),
          ("c", .group [("e", .group [("b", .scalar "$c"), ("d", .scalar "1")])])] := by decide
  have second : (resolve "$" [("c", .group [("e", .scalar "$a")]),
      ("a", .group [("d", .scalar "1"), ("b", .scalar "$c")])]).result =
        .ok [("c", .group [("e", .group [("d", .scalar "1"), ("b", .scalar "$c")])]),
          ("a", .group [("d", .scalar "1"), ("b", .group [("e", .scalar "$a")])])] := by decide
  rw [first] at resolved
  rw [second] at otherResolved
  cases resolved
  cases otherResolved
  exact ⟨reordered, first, second, related⟩

end Reference

end Varsheet
