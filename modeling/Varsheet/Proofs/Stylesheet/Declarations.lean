import Varsheet.Proofs.Text.Lines
import Varsheet.Proofs.Tree.Leaves
import Varsheet.Render.Stylesheet

/-!
# What a stylesheet tells of its tree

A stylesheet has one line for each text of the tree. Names and texts stand in it as they are, but a name has
no colon and a text has no line feed, so every line can be read back. What is read is the list of texts with their
joined names, and nothing else of the tree matters for the stylesheet.

* `declaration` : the line of a text, from the way to it
* `declarations_eq_map` : carrying a name along comes to joining the names on the way
* `named` : the joined names and texts of a tree
* `readLine`, `readBack`, `readBack_render` : a stylesheet is read back line by line
* `render_eq_iff_named_eq` : two stylesheets are equal exactly if their joined names and texts are
-/

namespace Varsheet.Stylesheet

open Text (Unbroken unbroken_append)

/-! ## Lines -/

/-- The line of a text. The names on the way to it are joined by hyphens. -/
def declaration (symbol : String) (path : List String) (text : String) : String :=
  symbol ++ "-".intercalate path ++ ": " ++ text ++ ";"

theorem intercalate_qualify (outer : Option String) (key : String) (path : List String) :
    "-".intercalate (qualify outer key :: path) = "-".intercalate (outer.toList ++ key :: path) := by
  cases outer with
  | none => rfl
  | some name => simp [qualify]

mutual

theorem valueDeclarations_eq_map (symbol name : String) :
    ∀ content : Value, valueDeclarations symbol name content =
      content.leaves.map fun leaf => declaration symbol (name :: leaf.1) leaf.2
  | .scalar text => by simp [valueDeclarations, Value.leaves, declaration]
  | .group children => declarations_eq_map symbol (some name) children

theorem declarations_eq_map (symbol : String) (outer : Option String) :
    ∀ entries : List (String × Value), declarations symbol outer entries =
      (Tree.leaves entries).map fun leaf => declaration symbol (outer.toList ++ leaf.1) leaf.2
  | [] => rfl
  | (key, content) :: rest => by
    rw [declarations, Tree.leaves, List.map_append, List.map_map, declarations_eq_map symbol outer rest,
      valueDeclarations_eq_map symbol (qualify outer key) content]
    simp only [declaration, intercalate_qualify, Function.comp_def]

end

theorem render_eq_intercalate (options : Options) (tree : Tree) :
    render options tree =
      "\n".intercalate ((Tree.leaves tree).map fun leaf => declaration options.symbol leaf.1 leaf.2) := by
  rw [render, declarations_eq_map]
  rfl

/-! ## Reading back -/

/-- The texts of a tree with the joined names on the ways to them. -/
def named (tree : Tree) : List (String × String) :=
  (Tree.leaves tree).map fun leaf => ("-".intercalate leaf.1, leaf.2)

/-- No name has a colon in it, and no name or text has a line feed in it. -/
def IsDeclarable (tree : Tree) : Prop :=
  tree.Everywhere (fun names => ∀ key ∈ names, ':' ∉ key.toList ∧ Unbroken key) Unbroken

instance (tree : Tree) : Decidable (IsDeclarable tree) :=
  inferInstanceAs (Decidable (Tree.Everywhere _ _ tree))

/-- The name and the text of a line. The name stands between the marker and the first colon, the text between the
blank behind the colon and the semicolon at the end. -/
def readLine (symbol : String) (line : List Char) : String × String :=
  let body := line.drop symbol.length
  (String.ofList (body.takeWhile (· ≠ ':')), String.ofList ((body.dropWhile (· ≠ ':')).drop 2).dropLast)

/-- The names and texts of a stylesheet, line by line. -/
def readBack (symbol output : String) : List (String × String) :=
  if output = "" then [] else (output.toList.splitOn '\n').map (readLine symbol)

section

variable {symbol : String} {path : List String} {text : String}

theorem readLine_declaration (noColon : ':' ∉ ("-".intercalate path).toList) :
    readLine symbol (declaration symbol path text).toList = ("-".intercalate path, text) := by
  have beforeColon : ∀ c ∈ ("-".intercalate path).toList, decide (c ≠ ':') = true := by
    intro c member
    rw [decide_eq_true_eq]
    rintro rfl
    exact noColon member
  have body : (declaration symbol path text).toList.drop symbol.length =
      ("-".intercalate path).toList ++ ':' :: ' ' :: (text.toList ++ [';']) := by
    simp only [declaration, String.toList_append, List.append_assoc]
    rw [List.drop_left' String.length_toList]
    rfl
  rw [readLine, body, List.takeWhile_append_of_pos beforeColon, List.dropWhile_append_of_pos beforeColon]
  simp [-String.toList_intercalate]

theorem declaration_ne_empty (symbol : String) (path : List String) (text : String) :
    declaration symbol path text ≠ "" := by
  simp [declaration]

end

section

variable {tree : Tree} (declarable : IsDeclarable tree)

include declarable

theorem not_mem_name_of_mem_leaves {leaf : List String × String} (member : leaf ∈ Tree.leaves tree) :
    ':' ∉ ("-".intercalate leaf.1).toList ∧ Unbroken ("-".intercalate leaf.1) := by
  have names := (Tree.of_mem_leaves tree declarable.1 declarable.2 leaf member).1
  have joined {c : Char} (other : c ≠ '-') (absent : ∀ key ∈ leaf.1, c ∉ key.toList) :
      c ∉ ("-".intercalate leaf.1).toList := by
    rw [String.toList_intercalate]
    exact Text.not_mem_intercalate (by simpa using absent) other
  exact ⟨joined (by decide) fun key onPath => (names key onPath).1,
    joined (by decide) fun key onPath => (names key onPath).2⟩

theorem unbroken_declaration {symbol : String} (unbroken : Unbroken symbol) {leaf : List String × String}
    (member : leaf ∈ Tree.leaves tree) : Unbroken (declaration symbol leaf.1 leaf.2) := by
  have text := (Tree.of_mem_leaves tree declarable.1 declarable.2 leaf member).2
  simp only [declaration, unbroken_append]
  exact ⟨⟨⟨⟨unbroken, (not_mem_name_of_mem_leaves declarable member).2⟩, by decide⟩, text⟩, by decide⟩

/-- A stylesheet is read back as the joined names and texts of its tree. -/
theorem readBack_render {options : Options} (unbroken : Unbroken options.symbol) :
    readBack options.symbol (render options tree) = named tree := by
  rw [render_eq_intercalate, readBack]
  by_cases noText : Tree.leaves tree = []
  · simp [noText, named]
  · have lines : ((Tree.leaves tree).map fun leaf => declaration options.symbol leaf.1 leaf.2) ≠ [] := by
      simpa using noText
    have filled : "\n".intercalate ((Tree.leaves tree).map fun leaf =>
        declaration options.symbol leaf.1 leaf.2) ≠ "" := by
      obtain ⟨leaf, rest, listed⟩ := List.exists_cons_of_ne_nil noText
      rw [listed, List.map_cons]
      cases rest <;> simp [declaration_ne_empty]
    rw [if_neg filled, Text.splitOn_intercalate_newline lines, List.map_map, List.map_map, named]
    · apply List.map_congr_left
      intro leaf member
      exact readLine_declaration (not_mem_name_of_mem_leaves declarable member).1
    · intro line member
      obtain ⟨leaf, listed, rfl⟩ := List.mem_map.1 member
      exact unbroken_declaration declarable unbroken listed

end

/-- A stylesheet has one line for each text, with the joined names on the way to it. Groups without a text leave no
trace, and where names have no colons and nothing has line feeds, the joined names and texts can be read back, so that
two stylesheets are equal exactly if these are. -/
theorem render_eq_iff_named_eq (options : Options) (tree : Tree) :
    render options tree =
      "\n".intercalate ((Tree.leaves tree).map fun leaf =>
        options.symbol ++ "-".intercalate leaf.1 ++ ": " ++ leaf.2 ++ ";") ∧
    render options (Tree.prune tree) = render options tree ∧
    (Unbroken options.symbol → IsDeclarable tree →
      readBack options.symbol (render options tree) = named tree ∧
      ∀ other : Tree, IsDeclarable other →
        (render options tree = render options other ↔ named tree = named other)) := by
  refine ⟨render_eq_intercalate options tree, ?_, fun unbroken declarable => ⟨?_, ?_⟩⟩
  · rw [render_eq_intercalate, render_eq_intercalate, Tree.leaves_prune]
  · exact readBack_render declarable unbroken
  · intro other declarable'
    constructor
    · intro same
      rw [← readBack_render declarable unbroken, same, readBack_render declarable' unbroken]
    · intro same
      -- the line of a text depends on the way to it through the joined names only
      have lines (tree : Tree) : ((Tree.leaves tree).map fun leaf => declaration options.symbol leaf.1 leaf.2) =
          (named tree).map fun pair => options.symbol ++ pair.1 ++ ": " ++ pair.2 ++ ";" := by
        rw [named, List.map_map]
        rfl
      rw [render_eq_intercalate, render_eq_intercalate, lines tree, lines other, same]

/-- The marker is a colon, the texts have colons and semicolons in them, and names are empty. The hyphen that joins two
names cannot be told from one in a name. -/
theorem render_eq_iff_named_eq_joined :
    let options := Options.default.withSymbol ":"
    let nested : Tree := [("a", .group [("b", .scalar "x: y;"), ("c", .group [])]), ("", .group [("", .scalar ";")])]
    let flat : Tree := [("a-b", .scalar "x: y;"), ("-", .scalar ";")]
    Unbroken options.symbol ∧ IsDeclarable nested ∧ IsDeclarable flat ∧
      readBack options.symbol (render options nested) = [("a-b", "x: y;"), ("-", ";")] ∧
      render options nested = render options flat ∧ render options nested ≠ render options flat.reverse := by
  intro options nested flat
  have unbroken : Unbroken options.symbol := by decide
  have declarable : IsDeclarable nested := by decide
  obtain ⟨back, same⟩ := (render_eq_iff_named_eq options nested).2.2 unbroken declarable
  refine ⟨unbroken, declarable, by decide, ?_, (same flat (by decide)).2 (by decide +kernel), fun equal => ?_⟩
  · rw [back]
    decide +kernel
  · exact absurd ((same flat.reverse (by decide)).1 equal) (by decide +kernel)

end Varsheet.Stylesheet
