import Mathlib.Data.List.Basic
import Varsheet.Proofs.Tree.Binding
import Varsheet.Reference

/-!
# References are followed once

Replacing the references of a tree is one substitution: a text that refers to a name at the root gives
way to the value under that name, taken from the tree as it was given. No other place of the tree changes,
and what has been put in place is left as it is, even if it is a reference or holds the place itself.

* `Value.substitute`, `Tree.substitute` : texts replaced by values, wherever they stand
* `Reference.target?_eq_some_iff` : the texts that are references
* `Reference.result_resolve` : the tree that comes of replacing references
* `Value.at?_substitute`, `Value.at?_of_at?_substitute` : what stands under a path afterwards, and which
  paths there are
* `Reference.at?_resolve` : both for the references of a tree
-/

namespace Varsheet

mutual

/-- A value in which every text that has a `target` is replaced by it. -/
def Value.substitute (target : String → Option Value) : Value → Value
  | .scalar text => (target text).getD (.scalar text)
  | .group entries => .group (Tree.substitute target entries)

/-- The same for the values of some entries. -/
def Tree.substitute (target : String → Option Value) :
    List (String × Value) → List (String × Value)
  | [] => []
  | (key, value) :: rest => (key, value.substitute target) :: Tree.substitute target rest

end

/-! ## Places -/

section

variable {target : String → Option Value}

@[simp] theorem Tree.keys_substitute (entries : List (String × Value)) :
    Tree.keys (Tree.substitute target entries) = Tree.keys entries := by
  induction entries with
  | nil => rfl
  | cons entry rest inductionHypothesis =>
    obtain ⟨key, value⟩ := entry
    simpa [Tree.substitute, Tree.keys] using inductionHypothesis

theorem Tree.get?_substitute (entries : List (String × Value)) (key : String) :
    Tree.get? (Tree.substitute target entries) key =
      (Tree.get? entries key).map (Value.substitute target) := by
  induction entries with
  | nil => rfl
  | cons entry rest inductionHypothesis =>
    obtain ⟨name, value⟩ := entry
    by_cases same : name = key
    · simp [Tree.substitute, Tree.get?, same]
    · simp [Tree.substitute, Tree.get?, same, inductionHypothesis]

theorem Value.at?_group_cons_eq_some_iff {entries : List (String × Value)} {key : String}
    {path : List String} {found : Value} :
    (Value.group entries).at? (key :: path) = some found ↔
      ∃ next, Tree.get? entries key = some next ∧ next.at? path = some found :=
  Option.bind_eq_some_iff

/-- What stands under a path is replaced where it stands. -/
theorem Value.at?_substitute (target : String → Option Value) {value found : Value} {path : List String}
    (there : value.at? path = some found) :
    (value.substitute target).at? path = some (found.substitute target) := by
  induction path generalizing value with
  | nil =>
    cases there
    rfl
  | cons key path inductionHypothesis =>
    cases value with
    | scalar text => cases there
    | group entries =>
      obtain ⟨next, bound, there⟩ := Value.at?_group_cons_eq_some_iff.1 there
      rw [Value.substitute, Value.at?_group_cons_eq_some_iff]
      refine ⟨next.substitute target, ?_, inductionHypothesis there⟩
      rw [Tree.get?_substitute, bound, Option.map_some]

/-- A path that was not there before leads through a text that has been replaced. -/
theorem Value.at?_of_at?_substitute {value found : Value} {path : List String}
    (there : (value.substitute target).at? path = some found) :
    (∃ old, value.at? path = some old) ∨
      ∃ front behind text, path = front ++ behind ∧ value.at? front = some (.scalar text) ∧
        (target text).isSome := by
  induction path generalizing value with
  | nil => exact .inl ⟨value, rfl⟩
  | cons key path inductionHypothesis =>
    cases value with
    | scalar text =>
      -- nothing is under a text, so the text itself has made room for the rest of the path
      cases hit : target text with
      | none =>
        rw [Value.substitute, hit] at there
        cases there
      | some replacement =>
        exact .inr ⟨[], key :: path, text, rfl, rfl, by rw [hit]; rfl⟩
    | group entries =>
      rw [Value.substitute, Value.at?_group_cons_eq_some_iff] at there
      obtain ⟨_, replaced, there⟩ := there
      rw [Tree.get?_substitute] at replaced
      obtain ⟨next, bound, rfl⟩ := Option.map_eq_some_iff.1 replaced
      -- below the first name the value that was there decides
      obtain ⟨old, known⟩ | ⟨front, behind, text, rfl, known, hit⟩ := inductionHypothesis there
      · exact .inl ⟨old, Value.at?_group_cons_eq_some_iff.2 ⟨next, bound, known⟩⟩
      · have known := Value.at?_group_cons_eq_some_iff.2 ⟨next, bound, known⟩
        exact .inr ⟨key :: front, behind, text, rfl, known, hit⟩

end

/-! ## References -/

namespace Reference

variable {symbol : String} {root : Tree} {text : String} {value : Value}

/-- A reference is the marker with a name of the root behind it. -/
theorem target?_eq_some_iff :
    target? symbol root text = some value ↔
      ∃ key, text = symbol ++ key ∧ root.get? key = some value := by
  rw [target?, Option.bind_eq_some_iff]
  constructor
  · rintro ⟨name, found, bound⟩
    refine ⟨String.ofList name, ?_, bound⟩
    rw [List.isPrefixOf?_eq_some_iff_append_eq] at found
    rw [← String.toList_inj, String.toList_append, String.toList_ofList, found]
  · rintro ⟨key, parts, bound⟩
    refine ⟨key.toList, ?_, by rwa [String.ofList_toList]⟩
    rw [List.isPrefixOf?_eq_some_iff_append_eq, parts, String.toList_append]

theorem target?_eq_none_iff :
    target? symbol root text = none ↔ ∀ key, text = symbol ++ key → key ∉ root.keys := by
  rw [Option.eq_none_iff_forall_ne_some]
  constructor
  · intro missing key parts named
    obtain ⟨value, bound⟩ := Tree.exists_get?_of_mem named
    exact missing value (target?_eq_some_iff.2 ⟨key, parts, bound⟩)
  · intro missing value found
    obtain ⟨key, parts, bound⟩ := target?_eq_some_iff.1 found
    exact missing key parts (Tree.mem_keys_of_get? bound)

mutual

theorem resolveValue_fst (symbol : String) (root : Tree) (key : String) :
    ∀ value : Value, (resolveValue symbol root key value).1 = value.substitute (target? symbol root)
  | .scalar text => by
    rw [resolveValue, Value.substitute]
    cases target? symbol root text <;> rfl
  | .group entries => by
    rw [resolveValue, Value.substitute]
    exact congrArg Value.group (resolveEntries_fst symbol root entries)

theorem resolveEntries_fst (symbol : String) (root : Tree) :
    ∀ entries : List (String × Value),
      (resolveEntries symbol root entries).1 = Tree.substitute (target? symbol root) entries
  | [] => rfl
  | (key, value) :: rest => by
    rw [resolveEntries, Tree.substitute, ← resolveValue_fst symbol root key value,
      ← resolveEntries_fst symbol root rest]

end

theorem result_resolve (symbol : String) (tree : Tree) :
    (resolve symbol tree).result =
      .ok (if symbol = "" then tree else Tree.substitute (target? symbol tree) tree) := by
  by_cases unmarked : symbol = ""
  · simp [resolve, unmarked]
  · by_cases empty : tree = []
    · simp [resolve, empty, Tree.substitute]
    · simp [resolve, unmarked, empty, resolveEntries_fst]

/-- Replacing references leaves every group where it is, with its names, puts the value that a root name had
before in the place of each reference to it, and leaves every other text as it is. New paths lead through
references. -/
theorem at?_resolve (symbol : String) (tree : Tree) (marked : symbol ≠ "") :
    ∃ result, (resolve symbol tree).result = .ok result ∧ result.keys = tree.keys ∧
      (∀ path entries, (Value.group tree).at? path = some (.group entries) →
        ∃ replaced, (Value.group result).at? path = some (.group replaced) ∧
          Tree.keys replaced = Tree.keys entries) ∧
      (∀ path key value, (Value.group tree).at? path = some (.scalar (symbol ++ key)) →
        tree.get? key = some value → (Value.group result).at? path = some value) ∧
      (∀ path text, (Value.group tree).at? path = some (.scalar text) →
        (∀ key, text = symbol ++ key → key ∉ tree.keys) →
          (Value.group result).at? path = some (.scalar text)) ∧
      ∀ path, ((Value.group result).at? path).isSome →
        ((Value.group tree).at? path).isSome ∨
          ∃ front behind key, path = front ++ behind ∧
            (Value.group tree).at? front = some (.scalar (symbol ++ key)) ∧ key ∈ tree.keys := by
  refine ⟨Tree.substitute (target? symbol tree) tree, ?_, Tree.keys_substitute tree, ?_, ?_, ?_, ?_⟩
  · rw [result_resolve, if_neg marked]
  · intro path entries there
    exact ⟨_, Value.at?_substitute _ there, Tree.keys_substitute entries⟩
  · intro path key value there bound
    have hit : target? symbol tree (symbol ++ key) = some value :=
      target?_eq_some_iff.2 ⟨key, rfl, bound⟩
    have replaced := Value.at?_substitute (target? symbol tree) there
    rwa [Value.substitute, hit] at replaced
  · intro path text there unknown
    have kept := Value.at?_substitute (target? symbol tree) there
    rwa [Value.substitute, target?_eq_none_iff.2 unknown] at kept
  · intro path present
    obtain ⟨found, there⟩ : ∃ found,
        ((Value.group tree).substitute (target? symbol tree)).at? path = some found :=
      Option.isSome_iff_exists.1 present
    obtain ⟨old, known⟩ | ⟨front, behind, text, parts, known, hit⟩ := Value.at?_of_at?_substitute there
    · exact .inl (by rw [known]; rfl)
    · obtain ⟨value, hit⟩ := Option.isSome_iff_exists.1 hit
      obtain ⟨key, rfl, bound⟩ := target?_eq_some_iff.1 hit
      exact .inr ⟨front, behind, key, parts, known, Tree.mem_keys_of_get? bound⟩

/-- A chain, a group that refers to itself, an empty name and an unknown one. -/
theorem at?_resolve_cyclic :
    "$" ≠ "" ∧
      ∃ result, (resolve "$" [("a", .scalar "$b"), ("b", .scalar "$a"),
          ("c", .group [("d", .scalar "$c"), ("e", .scalar "$f")]), ("", .scalar "$$"),
          ("$", .scalar "$")]).result = .ok result ∧
        (Value.group result).at? ["a"] = some (.scalar "$a") ∧
        (Value.group result).at? ["b"] = some (.scalar "$b") ∧
        (Value.group result).at? ["c", "d"] = some (.group [("d", .scalar "$c"), ("e", .scalar "$f")]) ∧
        (Value.group result).at? ["c", "e"] = some (.scalar "$f") ∧
        (Value.group result).at? [""] = some (.scalar "$") ∧
        (Value.group result).at? ["$"] = some (.scalar "$$") := by
  obtain ⟨result, resolved, -, -, replaced, kept, -⟩ := at?_resolve "$" [("a", .scalar "$b"),
    ("b", .scalar "$a"), ("c", .group [("d", .scalar "$c"), ("e", .scalar "$f")]), ("", .scalar "$$"),
    ("$", .scalar "$")] (by decide)
  refine ⟨by decide, result, resolved, ?_, ?_, ?_, ?_, ?_, ?_⟩
  · exact replaced ["a"] "b" _ rfl rfl
  · exact replaced ["b"] "a" _ rfl rfl
  · exact replaced ["c", "d"] "c" _ rfl rfl
  · refine kept ["c", "e"] "$f" rfl fun key parts => ?_
    have named : key = "f" := by
      rw [← String.toList_inj] at parts ⊢
      simpa using parts.symm
    rw [named]
    decide
  · exact replaced [""] "$" _ rfl rfl
  · exact replaced ["$"] "" _ rfl rfl

end Reference

end Varsheet
