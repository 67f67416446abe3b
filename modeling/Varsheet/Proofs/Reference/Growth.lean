import Mathlib.Algebra.Order.BigOperators.Group.List
import Mathlib.Algebra.Order.Ring.Nat
import Varsheet.Proofs.Reference.Passes

/-!
# How far a tree can grow

A group may hold a reference to itself, and many references may lead to the same group. As each of them is replaced
once, the tree that comes of it stays small: a way through it goes down to a reference and from there through one value
at the root, which is at least one step less high than the tree.

* `Tree.Within` : a bound for the ways through a tree
* `Tree.Within.substitute` : the ways after a substitution
* `Tree.length_leaves_substitute_le` : the number of texts after a substitution
* `Reference.resolve_within` : both for the references of a tree
-/

namespace Varsheet

/-! ## Ways -/

theorem Value.at?_append (value : Value) (front behind : List String) :
    value.at? (front ++ behind) = (value.at? front).bind fun found => found.at? behind := by
  induction front generalizing value with
  | nil => simp [Value.at?]
  | cons key front inductionHypothesis =>
    cases value with
    | scalar text => simp [Value.at?]
    | group entries =>
      cases bound : Tree.get? entries key with
      | none => simp [Value.at?, bound]
      | some next => simp [Value.at?, bound, inductionHypothesis]

/-- No way through the value takes more than `height` names. -/
def Value.Within (value : Value) (height : Nat) : Prop :=
  ∀ path, (value.at? path).isSome → path.length ≤ height

/-- No way through the tree takes more than `height` names. -/
def Tree.Within (tree : Tree) (height : Nat) : Prop :=
  (Value.group tree).Within height

/-- The values at the root are less high than the tree, by the name that they stand under. -/
theorem Tree.Within.of_get? {tree : Tree} {height : Nat} {key : String} {value : Value}
    (within : tree.Within height) (bound : tree.get? key = some value) : value.Within (height - 1) := by
  intro path present
  have longer : (key :: path).length ≤ height := by
    apply within
    rwa [Value.at?, bound, Option.bind_some]
  simp only [List.length_cons] at longer
  omega

/-- A way is as long as before, or goes on behind a text inside of the value that has been put in its place. -/
theorem Tree.Within.substitute {target : String → Option Value} {tree : Tree} {height reach : Nat}
    (within : tree.Within height) (short : ∀ text found, target text = some found → found.Within reach) :
    Tree.Within (Tree.substitute target tree) (height + reach) := by
  intro path present
  obtain ⟨found, there⟩ : ∃ found, ((Value.group tree).substitute target).at? path = some found :=
    Option.isSome_iff_exists.1 present
  -- either the way was there before, or it passes a text that has been replaced
  obtain ⟨old, known⟩ | ⟨front, behind, text, rfl, known, hit⟩ := Value.at?_of_at?_substitute there
  · have := within path (by rw [known]; rfl)
    omega
  · obtain ⟨replacement, hit⟩ := Option.isSome_iff_exists.1 hit
    -- behind the text the way leads through the replacement only
    have inside : (replacement.at? behind).isSome := by
      have moved := Value.at?_substitute target known
      rw [Value.substitute, hit, Option.getD_some] at moved
      rw [Value.at?_append, moved, Option.bind_some] at there
      rw [there]
      rfl
    have toText := within front (by rw [known]; rfl)
    have throughReplacement := short text replacement hit behind inside
    rw [List.length_append]
    omega

/-! ## Texts -/

theorem Tree.length_leaves_of_get? {tree : Tree} {key : String} {value : Value}
    (bound : tree.get? key = some value) : value.leaves.length ≤ (Tree.leaves tree).length := by
  induction tree with
  | nil => cases bound
  | cons entry rest inductionHypothesis =>
    obtain ⟨name, content⟩ := entry
    rw [Tree.leaves, List.length_append, List.length_map]
    rw [Tree.get?] at bound
    split at bound
    · cases bound
      omega
    · have := inductionHypothesis bound
      omega

/-- If each text makes room for `size` texts at most, then there are at most `size` times as many. -/
theorem Tree.length_leaves_substitute_le {target : String → Option Value} {tree : Tree} {size : Nat}
    (few : ∀ leaf ∈ Tree.leaves tree, (graft target leaf).length ≤ size) :
    (Tree.leaves (Tree.substitute target tree)).length ≤ (Tree.leaves tree).length * size := by
  rw [Tree.leaves_substitute, List.length_flatMap]
  have each : ∀ count ∈ (Tree.leaves tree).map fun leaf => (graft target leaf).length, count ≤ size :=
    List.forall_mem_map.2 few
  simpa using List.sum_le_card_nsmul _ size each

/-! ## References -/

namespace Reference

/-- A reference makes room for the texts of a value at the root, and any other text for itself. -/
theorem length_graft_le {symbol : String} {tree : Tree} {leaf : List String × String}
    (member : leaf ∈ Tree.leaves tree) :
    (graft (target? symbol tree) leaf).length ≤ (Tree.leaves tree).length := by
  rw [graft, List.length_map]
  cases found : target? symbol tree leaf.2 with
  | none =>
    have := List.length_pos_of_mem member
    simp only [Option.getD_none, Value.leaves, List.length_singleton]
    omega
  | some value =>
    obtain ⟨key, -, bound⟩ := target?_eq_some_iff.1 found
    exact Tree.length_leaves_of_get? bound

/-- However references lead into each other, replacing them makes no way twice as long as the longest one before, and
the number of texts is at most squared. -/
theorem resolve_within (symbol : String) {tree : Tree} {height : Nat} (within : tree.Within height) :
    ∃ result, (resolve symbol tree).result = .ok result ∧ result.Within (2 * height - 1) ∧
      (Tree.leaves result).length ≤ (Tree.leaves tree).length * (Tree.leaves tree).length := by
  by_cases unmarked : symbol = ""
  · -- without a symbol nothing is replaced
    refine ⟨tree, by rw [result_resolve, if_pos unmarked], fun path present => ?_, Nat.le_mul_self _⟩
    have := within path present
    omega
  · refine ⟨_, result_resolve_of_marked unmarked tree, fun path present => ?_, ?_⟩
    · -- what is put in place comes from the root, so that it lacks one name of the longest way
      have values : ∀ text found, target? symbol tree text = some found → found.Within (height - 1) := by
        intro text found hit
        obtain ⟨key, -, bound⟩ := target?_eq_some_iff.1 hit
        exact within.of_get? bound
      have := within.substitute values path present
      omega
    · exact Tree.length_leaves_substitute_le fun leaf member => length_graft_le member

/-- A group with two references to itself, for which both bounds are reached. -/
theorem resolve_within_cyclic :
    Tree.Within [("a", .group [("b", .scalar "$a"), ("c", .scalar "$a")])] 2 ∧
      ∃ result, (resolve "$" [("a", .group [("b", .scalar "$a"), ("c", .scalar "$a")])]).result = .ok result ∧
        result.Within 3 ∧ (Value.group result).at? ["a", "b", "c"] = some (.scalar "$a") ∧
        (Tree.leaves result).length ≤ 2 * 2 ∧ (Tree.leaves result).length = 4 := by
  have within : Tree.Within [("a", .group [("b", .scalar "$a"), ("c", .scalar "$a")])] 2 := by
    intro path present
    match path with
    | [] | [_] | [_, _] => simp
    | first :: second :: third :: rest =>
      simp only [Value.at?, Tree.get?] at present
      split at present
      · simp only [Option.bind_some, Value.at?, Tree.get?] at present
        split at present
        · cases present
        · split at present <;> cases present
      · cases present
  obtain ⟨result, resolved, short, few⟩ := resolve_within "$" within
  have known : (resolve "$" [("a", .group [("b", .scalar "$a"), ("c", .scalar "$a")])]).result =
      .ok [("a", .group [("b", .group [("b", .scalar "$a"), ("c", .scalar "$a")]),
        ("c", .group [("b", .scalar "$a"), ("c", .scalar "$a")])])] := by decide
  rw [known] at resolved
  cases resolved
  exact ⟨within, _, known, short, rfl, few, rfl⟩

end Reference

end Varsheet
