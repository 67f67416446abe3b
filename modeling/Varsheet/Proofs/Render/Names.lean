import Mathlib.Data.List.Nodup
import Varsheet.Proofs.Script.Modes
import Varsheet.Proofs.Stylesheet.Declarations
import Varsheet.Proofs.Tree.Leaves

/-!
# No name hides another

The names on the way to a text are joined by hyphens in a stylesheet, and hyphens become underscores in a script.
Names that avoid the hyphen, or the underscore, can be taken apart again, so different names stay different.

* `Stylesheet.intercalate_hyphen_injective` : joined names can be taken apart
* `Script.identifier_injective` : the hyphens of a name can be put back
* `nodup_emitted_names` : the names of a stylesheet, and the names in each group of a script, are distinct
-/

namespace Varsheet

namespace Stylesheet

/-- Two ways are equal if their joined names are, even if names are empty or the ways differ in length. -/
theorem intercalate_hyphen_injective {path path' : List String} (filled : path ≠ []) (filled' : path' ≠ [])
    (apart : ∀ key ∈ path, '-' ∉ key.toList) (apart' : ∀ key ∈ path', '-' ∉ key.toList)
    (same : "-".intercalate path = "-".intercalate path') : path = path' := by
  have taken {path : List String} (filled : path ≠ []) (apart : ∀ key ∈ path, '-' ∉ key.toList) :
      ("-".intercalate path).toList.splitOn '-' = path.map String.toList := by
    rw [String.toList_intercalate]
    exact List.splitOn_intercalate '-' (by simpa using apart) (by simpa using filled)
  have pieces : path.map String.toList = path'.map String.toList := by
    rw [← taken filled apart, same, taken filled' apart']
  exact List.map_injective_iff.2 (fun _ _ => String.toList_inj.1) pieces

theorem name_ne_of_mem_leaves {tree : Tree} (apart : tree.Avoids '-') {leaf leaf' : List String × String}
    (listed : leaf ∈ Tree.leaves tree) (listed' : leaf' ∈ Tree.leaves tree) (differ : leaf.1 ≠ leaf'.1) :
    "-".intercalate leaf.1 ≠ "-".intercalate leaf'.1 := by
  have filled {leaf : List String × String} (listed : leaf ∈ Tree.leaves tree) : leaf.1 ≠ [] := by
    obtain ⟨key, path, parts, -⟩ := Tree.exists_cons_of_mem_leaves listed
    rw [parts]
    exact List.cons_ne_nil key path
  have parts := Tree.of_mem_leaves tree apart.1 apart.2
  intro same
  exact differ (intercalate_hyphen_injective (filled listed) (filled listed') (parts leaf listed).1
    (parts leaf' listed').1 same)

end Stylesheet

namespace Script

theorem identifier_injective {key key' : String} (apart : '_' ∉ key.toList) (apart' : '_' ∉ key'.toList)
    (same : identifier key = identifier key') : key = key' := by
  have restored {key : String} (apart : '_' ∉ key.toList) :
      ((identifier key).toList.map fun c => if c = '_' then '-' else c) = key.toList := by
    rw [identifier, String.toList_ofList, List.map_map]
    refine (List.map_congr_left fun c member => ?_).trans (List.map_id _)
    -- no underscore was there before, so each of them was a hyphen
    have other : c ≠ '_' := fun underscore => apart (underscore ▸ member)
    by_cases hyphen : c = '-'
    · simp [hyphen]
    · simp [hyphen, other]
  rw [← String.toList_inj, ← restored apart, same, restored apart']

theorem nodup_map_identifier {names : List String} (distinct : names.Nodup)
    (apart : ∀ key ∈ names, '_' ∉ key.toList) : (names.map identifier).Nodup :=
  distinct.map_on fun key named key' named' same =>
    identifier_injective (apart key named) (apart key' named') same

end Script

/-- In a stylesheet of a tree whose names have no hyphens, no two lines have the same name, whatever ways lead to their
texts. In a script of a tree whose names have no underscores, no group has the same name twice. -/
theorem nodup_emitted_names (tree : Tree) (distinct : tree.Distinct) :
    (tree.Avoids '-' →
      (∀ symbol, Stylesheet.declarations symbol none tree =
        (Tree.leaves tree).map fun leaf => symbol ++ "-".intercalate leaf.1 ++ ": " ++ leaf.2 ++ ";") ∧
      ((Tree.leaves tree).map fun leaf => "-".intercalate leaf.1).Nodup ∧
      ∀ path path' text text', (Value.group tree).at? path = some (.scalar text) →
        (Value.group tree).at? path' = some (.scalar text') → path ≠ path' →
          "-".intercalate path ≠ "-".intercalate path') ∧
    (tree.Avoids '_' →
      ∀ path children, (Value.group tree).at? path = some (.group children) →
        (∀ options assign level, Script.entries options assign level children =
          children.map fun entry => Script.identifier entry.1 ++ assign ++ Script.value options level entry.2) ∧
        ((Tree.keys children).map Script.identifier).Nodup) := by
  refine ⟨fun apart => ⟨fun symbol => Stylesheet.declarations_eq_map symbol none tree, ?_, ?_⟩, fun apart => ?_⟩
  · have paths := Tree.nodup_paths tree distinct.1 distinct.2
    rw [List.nodup_iff_pairwise_ne, List.pairwise_map] at paths ⊢
    apply paths.imp_of_mem
    intro leaf leaf' listed listed' differ
    exact Stylesheet.name_ne_of_mem_leaves apart listed listed' differ
  · intro path path' text text' there there' differ
    have listed (path : List String) (text : String)
        (there : (Value.group tree).at? path = some (.scalar text)) : (path, text) ∈ Tree.leaves tree :=
      (Value.mem_leaves_iff (.group tree) distinct).2 there
    exact Stylesheet.name_ne_of_mem_leaves apart (listed path text there) (listed path' text' there') differ
  · intro path children there
    have distinct : Tree.Distinct children := Tree.Everywhere.of_at? distinct there
    have apart : Tree.Avoids '_' children := Tree.Everywhere.of_at? apart there
    exact ⟨fun options assign level => Script.entries_eq_map options assign level children,
      Script.nodup_map_identifier distinct.1 apart.1⟩

/-- Names are empty, and ways differ in length. -/
theorem nodup_emitted_names_empty :
    let tree : Tree := [("", .group [("", .scalar "1"), ("a", .scalar "2")]), ("a", .scalar "3"),
      ("b", .group [("a", .group [("", .scalar "4")])])]
    tree.Distinct ∧ tree.Avoids '-' ∧ tree.Avoids '_' ∧ "-".intercalate ["", "a"] ≠ "-".intercalate ["a"] ∧
      ["-", "-a", "a", "b-a-"].Nodup ∧ (["", "a"].map Script.identifier).Nodup := by
  intro tree
  have distinct : tree.Distinct := by decide
  have apart : tree.Avoids '-' := by decide
  have apart' : tree.Avoids '_' := by decide
  obtain ⟨joined, replaced⟩ := nodup_emitted_names tree distinct
  refine ⟨distinct, apart, apart', ?_, (joined apart).2.1, (replaced apart' [""] _ rfl).2⟩
  exact (joined apart).2.2 ["", "a"] ["a"] "2" "3" rfl rfl (by decide)

end Varsheet
