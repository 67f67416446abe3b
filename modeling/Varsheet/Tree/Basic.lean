/-!
# Trees of named values

A tree is a list of named values in the order in which the names were first given. A value is a text
or a tree of its own.

* `Value`, `Tree` : the data
* `Tree.get?`, `Tree.insert`, `Tree.ofEntries` : a name keeps its first place and its last value
* `Value.at?` : the value under a path of names
* `Tree.leaves` : the texts with their paths, in order
-/

namespace Varsheet

/-- A value of a sheet: a text, or a group of named values. -/
inductive Value where
  | scalar (text : String)
  | group (entries : List (String × Value))
deriving Inhabited

/-- Named values, in order. -/
abbrev Tree := List (String × Value)

namespace Tree

/-- The names of a tree, in order. -/
def keys (tree : Tree) : List String :=
  tree.map Prod.fst

/-- The value under a name. -/
def get? (tree : Tree) (key : String) : Option Value :=
  match tree with
  | [] => none
  | (name, value) :: rest => if name = key then some value else get? rest key

/-- Binds a name. A name that is bound already keeps its place and takes the new value; any other
name goes to the end. -/
def insert (tree : Tree) (key : String) (value : Value) : Tree :=
  match tree with
  | [] => [(key, value)]
  | (name, old) :: rest =>
    if name = key then (name, value) :: rest else (name, old) :: insert rest key value

/-- Binds every entry of a list, in order. -/
def insertAll (tree : Tree) (entries : List (String × Value)) : Tree :=
  entries.foldl (fun built entry => insert built entry.1 entry.2) tree

/-- The tree of a list of entries, in which a name may be given more than once. -/
def ofEntries (entries : List (String × Value)) : Tree :=
  insertAll [] entries

end Tree

/-! ## Paths and leaves -/

/-- The value under a path of names. A text has nothing under it, and the empty path leads to the
value itself. -/
def Value.at? (value : Value) (path : List String) : Option Value :=
  match path, value with
  | [], value => some value
  | key :: rest, .group entries => (Tree.get? entries key).bind fun found => found.at? rest
  | _ :: _, .scalar _ => none

mutual

/-- The texts of a value with their paths of names, in order. -/
def Value.leaves : Value → List (List String × String)
  | .scalar text => [([], text)]
  | .group entries => Tree.leaves entries

/-- The texts of a tree with their paths of names, in order. -/
def Tree.leaves : List (String × Value) → List (List String × String)
  | [] => []
  | (key, value) :: rest =>
    (value.leaves.map fun leaf => (key :: leaf.1, leaf.2)) ++ Tree.leaves rest

end

/-! ## Equality -/

mutual

/-- Values are compared entry by entry. -/
def Value.decEq : (a b : Value) → Decidable (a = b)
  | .scalar s, .scalar t =>
    if h : s = t then isTrue (h ▸ rfl) else isFalse (by intro e; cases e; exact h rfl)
  | .group es, .group fs =>
    match Tree.decEq es fs with
    | isTrue h => isTrue (h ▸ rfl)
    | isFalse h => isFalse (by intro e; cases e; exact h rfl)
  | .scalar _, .group _ => isFalse (by intro e; cases e)
  | .group _, .scalar _ => isFalse (by intro e; cases e)

/-- Trees are compared entry by entry. -/
def Tree.decEq : (a b : List (String × Value)) → Decidable (a = b)
  | [], [] => isTrue rfl
  | [], _ :: _ => isFalse (by intro e; cases e)
  | _ :: _, [] => isFalse (by intro e; cases e)
  | (k, v) :: es, (l, w) :: fs =>
    if hk : k = l then
      match v.decEq w, Tree.decEq es fs with
      | isTrue hv, isTrue hs => isTrue (hk ▸ hv ▸ hs ▸ rfl)
      | isFalse hv, _ => isFalse (by intro e; cases e; exact hv rfl)
      | _, isFalse hs => isFalse (by intro e; cases e; exact hs rfl)
    else isFalse (by intro e; cases e; exact hk rfl)

end

instance : DecidableEq Value := Value.decEq

/-! ## Lookup after binding -/

namespace Tree

@[simp] theorem get?_insert_self (tree : Tree) (key : String) (value : Value) :
    get? (insert tree key value) key = some value := by
  induction tree with
  | nil => simp [insert, get?]
  | cons entry rest ih =>
    obtain ⟨name, old⟩ := entry
    by_cases h : name = key <;> simp [insert, get?, h, ih]

theorem get?_insert_of_ne (tree : Tree) {key other : String} (value : Value) (h : key ≠ other) :
    get? (insert tree key value) other = get? tree other := by
  induction tree with
  | nil => simp [insert, get?, h]
  | cons entry rest ih =>
    obtain ⟨name, old⟩ := entry
    by_cases hk : name = key
    · subst hk
      simp [insert, get?, h]
    · rw [insert, if_neg hk, get?, get?, ih]

/-- A new name goes to the end, an old one stays where it is. -/
theorem keys_insert (tree : Tree) (key : String) (value : Value) :
    keys (insert tree key value) = if key ∈ keys tree then keys tree else keys tree ++ [key] := by
  induction tree with
  | nil => simp [insert, keys]
  | cons entry rest ih =>
    obtain ⟨name, old⟩ := entry
    by_cases h : name = key
    · simp [insert, keys, h]
    · have h' : ¬ key = name := fun e => h e.symm
      simp only [keys] at ih
      by_cases hm : key ∈ List.map Prod.fst rest <;> simp [insert, keys, h, h', ih, hm]

end Tree

end Varsheet
