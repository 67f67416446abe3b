import Mathlib.Data.List.Nodup
import Varsheet.Proofs.Json.Writing
import Varsheet.Proofs.Options.Loading
import Varsheet.Proofs.Tree.Binding

/-!
# Options from the JSON text of a tree

The JSON text of a tree can be loaded as options if the entries at its root allow it. All that stands deeper, and
all that has another name, is passed over.

* `Tree.IsConfiguration`, `Tree.patch` : which trees can be loaded, and what they set
* `Patch.ofJson_eq_ok_iff_of_isTextOf` : loading the text of a known value
* `Tree.sets_toJson_iff` : what the value of a tree sets
* `Options.ofJson_render` : loading what was written for a tree
-/

namespace Varsheet

open Json

namespace Tree

/-- The text under a name, if the name is bound to one. -/
def scalar? (tree : Tree) (key : String) : Option String :=
  match tree.get? key with
  | some (.scalar text) => some text
  | _ => none

/-- The fields that the texts at the root of a tree set. -/
def patch (tree : Tree) : Patch where
  symbol := tree.scalar? "symbol"
  container := tree.scalar? "namespace"
  target := (tree.scalar? "target").map Target.ofName
  quotes := tree.scalar? "quotes"
  closure := none
  solve := none
  tab := tree.scalar? "tab"

/-- The root has no entry for a field that is no text, and no group in the place of one that is. -/
def IsConfiguration (tree : Tree) : Prop :=
  "closure" ∉ tree.keys ∧ "solve" ∉ tree.keys ∧
    ∀ key ∈ ["symbol", "namespace", "target", "quotes", "tab"], ∀ entries, tree.get? key ≠ some (.group entries)

/-! ## The members of a tree -/

theorem map_fst_toMembers (tree : Tree) : (toMembers tree).map Prod.fst = tree.keys := by
  induction tree with
  | nil => rfl
  | cons entry rest ih => simpa [toMembers, keys] using ih

theorem lookup_toMembers (tree : Tree) (key : String) :
    (toMembers tree).lookup key = (tree.get? key).map Value.toJson := by
  induction tree with
  | nil => rfl
  | cons entry rest ih =>
    obtain ⟨name, content⟩ := entry
    by_cases same : name = key
    · simp [toMembers, get?, same]
    · have differs : (key == name) = false := by simpa using Ne.symm same
      simp [toMembers, get?, same, List.lookup_cons, differs, ih]

theorem mem_toMembers_iff {tree : Tree} (distinct : tree.keys.Nodup) {key : String} {value : Json} :
    (key, value) ∈ toMembers tree ↔ ∃ content, tree.get? key = some content ∧ content.toJson = value := by
  induction tree with
  | nil => simp [toMembers, get?]
  | cons entry rest ih =>
    obtain ⟨name, content⟩ := entry
    obtain ⟨fresh, distinct⟩ := List.nodup_cons.1 distinct
    by_cases same : name = key
    · subst same
      have later : get? rest name = none := get?_eq_none_iff.2 fresh
      simp [toMembers, get?, ih distinct, later, eq_comm]
    · simp [toMembers, get?, same, Ne.symm same, ih distinct]

/-! ## What a tree sets -/

theorem scalar?_eq_bind (tree : Tree) (key : String) :
    tree.scalar? key = ((tree.get? key).map Value.toJson).bind Json.text? := by
  unfold scalar?
  cases tree.get? key with
  | none => rfl
  | some content => cases content <;> rfl

theorem truth?_toJson (content : Value) : content.toJson.truth? = none := by
  cases content <;> rfl

theorem ofValues_get? (tree : Tree) :
    Patch.ofValues (fun field => (tree.get? field.name).map Value.toJson) = tree.patch := by
  have noTruth (key : String) : ((tree.get? key).map Value.toJson).bind Json.truth? = none := by
    simp [Option.bind_map, Function.comp_def, truth?_toJson]
  simp only [Patch.ofValues, patch, scalar?_eq_bind, noTruth, Field.name]

theorem accepts_toJson_iff {field : Field} {content : Value} :
    field.Accepts content.toJson ↔
      (field ≠ .closure ∧ field ≠ .solve) ∧ ∀ entries, content ≠ .group entries := by
  cases content <;> simp [Value.toJson, Field.Accepts]

/-- The root gives no field a value that the field does not take. -/
theorem isConfiguration_iff {tree : Tree} :
    tree.IsConfiguration ↔
      ∀ (field : Field) (content : Value), tree.get? field.name = some content → field.Accepts content.toJson := by
  simp only [accepts_toJson_iff]
  constructor
  · rintro ⟨noClosure, noSolve, noGroup⟩ field content bound
    have fits (listed : field.name ∈ ["symbol", "namespace", "target", "quotes", "tab"]) :
        ∀ entries, content ≠ .group entries := by
      rintro entries rfl
      exact noGroup field.name listed entries bound
    cases field with
    | closure => exact absurd (mem_keys_of_get? bound) noClosure
    | solve => exact absurd (mem_keys_of_get? bound) noSolve
    | symbol | container | target | quotes | tab => exact ⟨by decide, fits (by decide)⟩
  · intro accepts
    have noGroup (field : Field) : ∀ entries, tree.get? field.name ≠ some (.group entries) :=
      fun entries bound => (accepts field _ bound).2 entries rfl
    refine ⟨fun named => ?_, fun named => ?_, ?_⟩
    · obtain ⟨content, bound⟩ := exists_get?_of_mem named
      exact (accepts .closure content bound).1.1 rfl
    · obtain ⟨content, bound⟩ := exists_get?_of_mem named
      exact (accepts .solve content bound).1.2 rfl
    · simp only [List.forall_mem_cons]
      exact ⟨noGroup .symbol, noGroup .container, noGroup .target, noGroup .quotes, noGroup .tab, nofun⟩

theorem sets_toJson_iff {tree : Tree} (distinct : tree.keys.Nodup) {patch : Patch} :
    tree.toJson.Sets patch ↔ tree.IsConfiguration ∧ patch = tree.patch := by
  have counts (field : Field) : tree.keys.count field.name ≤ 1 :=
    List.nodup_iff_count_le_one.1 distinct field.name
  rw [isConfiguration_iff, ← ofValues_get?]
  simp only [toJson, Json.Sets, map_fst_toMembers, mem_toMembers_iff distinct, lookup_toMembers, counts,
    implies_true, true_and]
  simp

end Tree

/-! ## Loading what was written -/

/-- A strict text is loaded as the value that it stands for: the liberty of the loader adds no other reading. -/
theorem Patch.ofJson_eq_ok_iff_of_isTextOf {value : Json} {text : String} {patch : Patch}
    (isText : value.IsTextOf text) : Patch.ofJson text = .ok patch ↔ value.Sets patch := by
  rw [Patch.ofJson_eq_ok_iff]
  constructor
  · rintro ⟨other, spaced, sets⟩
    -- both are read by one who lets all halves pass, and he reads one value at most
    have strict := isText.imp (Spells.mono (Halves.refused_within .replaced) value)
    have loose := spaced.imp fun _ => spells_replaced_of_spellsLoosely
    rwa [spaced_spells_unique strict loose]
  · exact fun sets => ⟨value, isText.imp fun _ => spellsLoosely_of_spells, sets⟩

/-- The JSON text of a tree is loaded exactly if the tree is a configuration, and then sets what the texts at its
root say. It is refused with code 310 otherwise. -/
theorem Options.ofJson_render (tree : Tree) (distinct : tree.keys.Nodup) :
    ((∃ options, Options.ofJson (JsonText.render tree) = .ok options) ↔ tree.IsConfiguration) ∧
    (tree.IsConfiguration → Options.ofJson (JsonText.render tree) = .ok (.ofPatch tree.patch)) ∧
    (¬ tree.IsConfiguration → ∃ message hint,
      Options.ofJson (JsonText.render tree) = .error (.badOptions message ⟨some hint, some 310⟩)) := by
  have loaded (patch : Patch) :
      Patch.ofJson (JsonText.render tree) = .ok patch ↔ tree.IsConfiguration ∧ patch = tree.patch := by
    rw [Patch.ofJson_eq_ok_iff_of_isTextOf (JsonText.isTextOf_render tree), Tree.sets_toJson_iff distinct]
  have accepted (fits : tree.IsConfiguration) :
      Options.ofJson (JsonText.render tree) = .ok (.ofPatch tree.patch) :=
    Options.ofJson_eq_ok_iff.2 ⟨tree.patch, (loaded _).2 ⟨fits, rfl⟩, rfl⟩
  refine ⟨⟨?_, fun fits => ⟨_, accepted fits⟩⟩, accepted, fun misfit => ?_⟩
  · rintro ⟨options, taken⟩
    obtain ⟨patch, taken, -⟩ := Options.ofJson_eq_ok_iff.1 taken
    exact ((loaded patch).1 taken).1
  · exact Options.exists_error_of_ne_ok fun patch taken => misfit ((loaded patch).1 taken).1

/-- Names of fields further down do no harm, nor do characters that have to be escaped. -/
theorem Options.ofJson_render_nested :
    (Tree.keys [("tab", .scalar "\t"), ("\"\\", .group [("solve", .scalar ""), ("target", .group [])]),
        ("target", .scalar "sass")]).Nodup ∧
      Options.ofJson (JsonText.render [("tab", .scalar "\t"),
        ("\"\\", .group [("solve", .scalar ""), ("target", .group [])]), ("target", .scalar "sass")]) =
        .ok { Options.default with target := .stylesheet, tab := "\t" } := by
  refine ⟨by decide, (Options.ofJson_render _ (by decide)).2.1 ⟨by decide, by decide, ?_⟩⟩
  simp [Tree.get?]

end Varsheet
