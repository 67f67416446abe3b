import Varsheet.Tree.Basic

/-!
# Trees at every depth

* `Tree.Everywhere` : all texts of a tree, and the names of each of its groups, meet a condition
* `Tree.Distinct`, `Tree.Avoids` : no group gives a name twice, and no name has a certain character in it
* `Tree.mapKeys` : a tree in which every name has been changed
-/

namespace Varsheet

mutual

/-- Every text inside of a value meets `onText`, and the names of every group inside of it meet
`onNames`. -/
def Value.Everywhere (onNames : List String → Prop) (onText : String → Prop) : Value → Prop
  | .scalar text => onText text
  | .group entries => onNames (Tree.keys entries) ∧ Tree.Inside onNames onText entries

/-- The same for the values of some entries. -/
def Tree.Inside (onNames : List String → Prop) (onText : String → Prop) :
    List (String × Value) → Prop
  | [] => True
  | (_, value) :: rest => value.Everywhere onNames onText ∧ Tree.Inside onNames onText rest

end

/-- Every text of a tree meets `onText`, and the names of the tree and of every group inside of it meet
`onNames`. -/
def Tree.Everywhere (onNames : List String → Prop) (onText : String → Prop) (tree : Tree) : Prop :=
  onNames tree.keys ∧ Tree.Inside onNames onText tree

section

variable {onNames : List String → Prop} {onText : String → Prop} {tree : Tree} {key : String}
  {value : Value}

theorem Tree.Inside.of_get? (inside : Tree.Inside onNames onText tree) (bound : tree.get? key = some value) :
    value.Everywhere onNames onText := by
  induction tree with
  | nil => cases bound
  | cons entry rest ih =>
    obtain ⟨name, first⟩ := entry
    obtain ⟨able, inside⟩ := inside
    rw [Tree.get?] at bound
    split at bound
    · cases bound
      exact able
    · exact ih inside bound

theorem Tree.Inside.insert (inside : Tree.Inside onNames onText tree)
    (able : value.Everywhere onNames onText) : Tree.Inside onNames onText (tree.insert key value) := by
  induction tree with
  | nil => exact ⟨able, trivial⟩
  | cons entry rest ih =>
    obtain ⟨name, first⟩ := entry
    rw [Tree.insert]
    split
    · exact ⟨able, inside.2⟩
    · exact ⟨inside.1, ih inside.2⟩

theorem Value.Everywhere.of_at? {path : List String} {found : Value} (able : value.Everywhere onNames onText)
    (there : value.at? path = some found) : found.Everywhere onNames onText := by
  induction path generalizing value with
  | nil =>
    cases there
    exact able
  | cons key path ih =>
    cases value with
    | scalar text => cases there
    | group entries =>
      rw [Value.at?, Option.bind_eq_some_iff] at there
      obtain ⟨next, bound, there⟩ := there
      exact ih (able.2.of_get? bound) there

/-- What holds everywhere in a tree holds in each of its groups. -/
theorem Tree.Everywhere.of_at? {path : List String} {children : Tree} (able : tree.Everywhere onNames onText)
    (there : (Value.group tree).at? path = some (.group children)) : children.Everywhere onNames onText := by
  have whole : (Value.group tree).Everywhere onNames onText := able
  exact whole.of_at? there

end

section

variable {onNames : List String → Prop} {onText : String → Prop} [DecidablePred onNames]
  [DecidablePred onText]

mutual

def Value.decEverywhere : (value : Value) → Decidable (value.Everywhere onNames onText)
  | .scalar text => inferInstanceAs (Decidable (onText text))
  | .group entries =>
    have := Tree.decInside entries
    inferInstanceAs (Decidable (onNames (Tree.keys entries) ∧ Tree.Inside onNames onText entries))

def Tree.decInside : (entries : List (String × Value)) →
    Decidable (Tree.Inside onNames onText entries)
  | [] => isTrue trivial
  | (_, value) :: rest =>
    have := value.decEverywhere
    have := Tree.decInside rest
    inferInstanceAs (Decidable (value.Everywhere onNames onText ∧ Tree.Inside onNames onText rest))

end

instance (tree : Tree) : Decidable (tree.Everywhere onNames onText) :=
  have : Decidable (Tree.Inside onNames onText tree) := Tree.decInside tree
  inferInstanceAs (Decidable (onNames tree.keys ∧ Tree.Inside onNames onText tree))

end

/-- No group of a tree, and not the tree itself, gives a name twice. -/
def Tree.Distinct (tree : Tree) : Prop :=
  tree.Everywhere List.Nodup fun _ => True

/-- No name of a tree, at any depth, has the character in it. -/
def Tree.Avoids (c : Char) (tree : Tree) : Prop :=
  tree.Everywhere (fun names => ∀ key ∈ names, c ∉ key.toList) fun _ => True

instance (tree : Tree) : Decidable tree.Distinct :=
  inferInstanceAs (Decidable (tree.Everywhere List.Nodup fun _ => True))

instance (c : Char) (tree : Tree) : Decidable (tree.Avoids c) :=
  inferInstanceAs (Decidable (tree.Everywhere (fun names => ∀ key ∈ names, c ∉ key.toList) fun _ => True))

mutual

/-- A value in which every name has been changed. -/
def Value.mapKeys (f : String → String) : Value → Value
  | .scalar text => .scalar text
  | .group entries => .group (Tree.mapKeys f entries)

/-- A tree in which every name has been changed. -/
def Tree.mapKeys (f : String → String) : List (String × Value) → List (String × Value)
  | [] => []
  | (key, value) :: rest => (f key, value.mapKeys f) :: Tree.mapKeys f rest

end

end Varsheet
