import Varsheet.Proofs.Script.Decoding
import Varsheet.Proofs.Text.Lines
import Varsheet.Proofs.Tree.Shape
import Varsheet.Render.Script

/-!
# The lines of a script

A script is put together from inside out: a group is a text with all of its lines in it, and the texts of
its entries are joined with commas and indentation. Here the same script is printed line by line, from top to
bottom, with the level of every line and the comma behind an entry known when the line is printed. The
printer has its own words for indentation, names and texts.

* `units`, `underscored`, `spelling` : what a line is made of
* `entryLines`, `treeLines` : the lines of an entry, and of the entries of a group
* `intercalate_entryLines`, `intercalate_treeLines` : the lines one below the other are what is rendered
* `treeLines_succ` : one level further in, every line has one more unit in front of it
* `splitOn_object` : the lines of a group with a text in front of it and one behind it
* `splitOn_render_of_undotted` : the lines of a script whose container has no dot
-/

namespace Varsheet.Script

open Text (Unbroken unbroken_append)

/-! ## The printer -/

/-- The unit of indentation, so many times. -/
def units (tab : String) : Nat → String
  | 0 => ""
  | level + 1 => tab ++ units tab level

/-- A name with underscores in the place of hyphens. -/
def underscored (key : String) : String :=
  key.map fun c => if c = '-' then '_' else c

/-- A text that consists of digits and dots, and is not empty, stands alone. Any other one stands between
quotes. -/
def spelling (quotes text : String) : String :=
  if text ≠ "" ∧ text.toList.all fun c => ('0'.toNat ≤ c.toNat ∧ c.toNat ≤ '9'.toNat) ∨ c = '.' then text
  else quotes ++ text ++ quotes

/-- Lines in braces. The opening brace ends the line `front`, and the closing one stands at `level`. -/
def bracedLines (tab : String) (level : Nat) (front behind : String) (inner : List String) :
    List String :=
  (front ++ "\x7b") :: (inner ++ [units tab level ++ "\x7d" ++ behind])

mutual

/-- The lines of an entry. The last of them ends with `behind`. -/
def entryLines (tab quotes : String) (level : Nat) (behind key : String) : Value → List String
  | .scalar text => [units tab level ++ underscored key ++ ": " ++ spelling quotes text ++ behind]
  | .group children =>
    if children.isEmpty then [units tab level ++ underscored key ++ ": \x7b\x7d" ++ behind]
    else
      bracedLines tab level (units tab level ++ underscored key ++ ": ") behind
        (treeLines tab quotes (level + 1) children)

/-- The lines of the entries of a group. There is a comma behind every entry but the last. -/
def treeLines (tab quotes : String) (level : Nat) : List (String × Value) → List String
  | [] => []
  | (key, content) :: rest =>
    entryLines tab quotes level (if rest.isEmpty then "" else ",") key content ++
      treeLines tab quotes level rest

end

/-! ## What a line is made of -/

theorem indent_eq_units (tab : String) (level : Nat) : indent tab level = units tab level := by
  induction level with
  | zero => rfl
  | succ level ih => rw [units, ← ih, indent, List.replicate_succ, String.join_cons, indent]

theorem identifier_eq_underscored (key : String) : identifier key = underscored key := by
  rw [← String.toList_inj, identifier, underscored, String.toList_ofList, String.toList_map]

theorem literal_eq_spelling (quotes text : String) : literal quotes text = spelling quotes text := by
  have digit (c : Char) : c.isDigit = true ↔ '0'.toNat ≤ c.toNat ∧ c.toNat ≤ '9'.toNat := by
    simp [Char.isDigit, UInt32.le_iff_toNat_le]
  simp only [literal, spelling, isNumeric_iff, digit, List.all_eq_true, decide_eq_true_eq]

theorem unbroken_units {tab : String} (unbroken : Unbroken tab) (level : Nat) :
    Unbroken (units tab level) := by
  induction level with
  | zero => exact List.not_mem_nil
  | succ level ih => exact unbroken_append.2 ⟨unbroken, ih⟩

theorem unbroken_underscored {key : String} (unbroken : Unbroken key) : Unbroken (underscored key) := by
  rw [← identifier_eq_underscored]
  exact not_mem_identifier (by decide) unbroken

theorem unbroken_spelling {quotes text : String} (unbrokenQuotes : Unbroken quotes)
    (unbroken : Unbroken text) : Unbroken (spelling quotes text) := by
  rw [← literal_eq_spelling]
  exact newline_not_mem_literal unbrokenQuotes unbroken

/-! ## Lines one below the other -/

section

variable {tab quotes : String} {level : Nat}

theorem entryLines_ne_nil {behind key : String} (content : Value) :
    entryLines tab quotes level behind key content ≠ [] := by
  cases content with
  | scalar text => simp [entryLines]
  | group children =>
    rw [entryLines]
    split <;> simp [bracedLines]

theorem treeLines_ne_nil {children : List (String × Value)} (filled : children ≠ []) :
    treeLines tab quotes level children ≠ [] := by
  obtain ⟨⟨key, content⟩, rest, rfl⟩ := List.exists_cons_of_ne_nil filled
  simp [treeLines, entryLines_ne_nil]

theorem intercalate_bracedLines {front behind : String} {inner : List String} (filled : inner ≠ []) :
    "\n".intercalate (bracedLines tab level front behind inner) =
      front ++ "\x7b\n" ++ "\n".intercalate inner ++ "\n" ++ units tab level ++ "\x7d" ++ behind := by
  rw [bracedLines, String.intercalate_cons_of_ne_nil (by simp),
    String.intercalate_append_of_ne_nil filled (by simp), String.intercalate_singleton]
  simp [← String.toList_inj]

end

section

variable {options : Options}

theorem entries_ne_nil {assign : String} {level : Nat} {children : List (String × Value)}
    (filled : children ≠ []) : entries options assign level children ≠ [] := by
  obtain ⟨⟨key, content⟩, rest, rfl⟩ := List.exists_cons_of_ne_nil filled
  simp [entries]

theorem object_of_ne_nil {level : Nat} {children : List (String × Value)} (filled : children ≠ []) :
    object options level children =
      "\x7b\n" ++ (indent options.tab (level + 1) ++
        String.intercalate (",\n" ++ indent options.tab (level + 1))
          (entries options ": " (level + 1) children)) ++
        "\n" ++ indent options.tab level ++ "\x7d" := by
  rw [object, braces, if_neg (by simpa using entries_ne_nil filled)]
  simp only [String.append_assoc]

mutual

theorem intercalate_entryLines {level : Nat} {behind key : String} :
    ∀ content : Value,
      "\n".intercalate (entryLines options.tab options.quotes level behind key content) =
        indent options.tab level ++ identifier key ++ ": " ++ value options level content ++ behind
  | .scalar text => by
    simp only [entryLines, String.intercalate_singleton, value, indent_eq_units, identifier_eq_underscored,
      literal_eq_spelling]
  | .group children => by
    rw [entryLines]
    by_cases empty : children = []
    · simp [empty, value, entries, braces, indent_eq_units, identifier_eq_underscored, ← String.toList_inj]
    · -- the lines of the children stand where the group has its entries
      have grouped : value options level (.group children) = object options level children := rfl
      rw [if_neg (by simpa using empty), intercalate_bracedLines (treeLines_ne_nil empty),
        intercalate_treeLines children empty, grouped, object_of_ne_nil empty]
      simp only [indent_eq_units, identifier_eq_underscored, String.append_assoc]

theorem intercalate_treeLines {level : Nat} :
    ∀ children : List (String × Value), children ≠ [] →
      "\n".intercalate (treeLines options.tab options.quotes level children) =
        indent options.tab level ++
          String.intercalate (",\n" ++ indent options.tab level) (entries options ": " level children)
  | [], filled => absurd rfl filled
  | (key, content) :: rest, _ => by
    rw [treeLines, entries]
    by_cases last : rest = []
    · simp [last, treeLines, entries, intercalate_entryLines content, String.append_assoc]
    · -- the comma ends the last line of the entry, and the indentation starts the next line
      rw [if_neg (by simpa using last),
        String.intercalate_append_of_ne_nil (entryLines_ne_nil content) (treeLines_ne_nil last),
        String.intercalate_cons_of_ne_nil (entries_ne_nil last), intercalate_entryLines content,
        intercalate_treeLines rest last]
      simp [← String.toList_inj]

end

/-- The lines of a group with a text in front of it and one behind it. -/
theorem intercalate_bracedLines_treeLines {level : Nat} {front behind : String} {tree : Tree}
    (filled : tree ≠ []) :
    "\n".intercalate (bracedLines options.tab level front behind
        (treeLines options.tab options.quotes (level + 1) tree)) =
      front ++ object options level tree ++ behind := by
  rw [intercalate_bracedLines (treeLines_ne_nil filled), intercalate_treeLines tree filled,
    object_of_ne_nil filled]
  simp only [indent_eq_units, String.append_assoc]

end

/-! ## One level further in -/

section

variable {tab quotes : String}

theorem bracedLines_succ (level : Nat) (front behind : String) (inner : List String) :
    bracedLines tab (level + 1) (tab ++ front) behind (inner.map (tab ++ ·)) =
      (bracedLines tab level front behind inner).map (tab ++ ·) := by
  simp [bracedLines, units, String.append_assoc]

mutual

theorem entryLines_succ {level : Nat} {behind key : String} :
    ∀ content : Value, entryLines tab quotes (level + 1) behind key content =
      (entryLines tab quotes level behind key content).map (tab ++ ·)
  | .scalar text => by simp [entryLines, units, String.append_assoc]
  | .group children => by
    rw [entryLines, entryLines]
    split
    · simp [units, String.append_assoc]
    · rw [treeLines_succ children, ← bracedLines_succ]
      simp only [units, String.append_assoc]

theorem treeLines_succ {level : Nat} :
    ∀ children : List (String × Value), treeLines tab quotes (level + 1) children =
      (treeLines tab quotes level children).map (tab ++ ·)
  | [] => rfl
  | (key, content) :: rest => by
    rw [treeLines, treeLines, List.map_append, entryLines_succ content, treeLines_succ rest]

end

end

/-! ## Lines without line feeds -/

/-- Nothing that a script is made of has a line feed in it. -/
structure IsUnbroken (options : Options) (tree : Tree) : Prop where
  container : ∀ name ∈ options.container, Unbroken name
  tab : Unbroken options.tab
  quotes : Unbroken options.quotes
  tree : tree.Everywhere (fun names => ∀ key ∈ names, Unbroken key) Unbroken

section

variable {tab quotes : String}

theorem unbroken_bracedLines {level : Nat} {front behind : String} {inner : List String}
    (unbrokenTab : Unbroken tab) (unbrokenFront : Unbroken front)
    (unbrokenBehind : Unbroken behind) (unbrokenInner : ∀ line ∈ inner, Unbroken line) :
    ∀ line ∈ bracedLines tab level front behind inner, Unbroken line := by
  simp only [bracedLines, List.forall_mem_cons, List.forall_mem_append, unbroken_append]
  exact ⟨⟨unbrokenFront, by decide⟩, unbrokenInner,
    ⟨⟨unbroken_units unbrokenTab level, by decide⟩, unbrokenBehind⟩, List.forall_mem_nil _⟩

mutual

theorem unbroken_entryLines {level : Nat} {behind key : String} (unbrokenTab : Unbroken tab)
    (unbrokenQuotes : Unbroken quotes) (unbrokenBehind : Unbroken behind) (unbrokenKey : Unbroken key) :
    ∀ content : Value, content.Everywhere (fun names => ∀ key ∈ names, Unbroken key) Unbroken →
      ∀ line ∈ entryLines tab quotes level behind key content, Unbroken line
  | .scalar text, unbroken => by
    simp only [entryLines, List.forall_mem_singleton, unbroken_append]
    exact ⟨⟨⟨⟨unbroken_units unbrokenTab level, unbroken_underscored unbrokenKey⟩, by decide⟩,
      unbroken_spelling unbrokenQuotes unbroken⟩, unbrokenBehind⟩
  | .group children, ⟨names, inside⟩ => by
    have start : Unbroken (units tab level ++ underscored key) :=
      unbroken_append.2 ⟨unbroken_units unbrokenTab level, unbroken_underscored unbrokenKey⟩
    rw [entryLines]
    split
    · rw [List.forall_mem_singleton, unbroken_append, unbroken_append]
      exact ⟨⟨start, by decide⟩, unbrokenBehind⟩
    · apply unbroken_bracedLines unbrokenTab (unbroken_append.2 ⟨start, by decide⟩) unbrokenBehind
      exact unbroken_treeLines unbrokenTab unbrokenQuotes children names inside

theorem unbroken_treeLines {level : Nat} (unbrokenTab : Unbroken tab) (unbrokenQuotes : Unbroken quotes) :
    ∀ children : List (String × Value), (∀ key ∈ Tree.keys children, Unbroken key) →
      Tree.Inside (fun names => ∀ key ∈ names, Unbroken key) Unbroken children →
      ∀ line ∈ treeLines tab quotes level children, Unbroken line
  | [], _, _ => List.forall_mem_nil _
  | (key, content) :: rest, names, ⟨unbroken, inside⟩ => by
    obtain ⟨name, names⟩ := List.forall_mem_cons.1 names
    have comma : Unbroken (if rest.isEmpty then "" else ",") := by
      split <;> decide
    rw [treeLines, List.forall_mem_append]
    exact ⟨unbroken_entryLines unbrokenTab unbrokenQuotes comma name content unbroken,
      unbroken_treeLines unbrokenTab unbrokenQuotes rest names inside⟩

end

end

section

variable {options : Options} {tree : Tree} (filled : tree ≠ []) (unbroken : IsUnbroken options tree)

include filled unbroken

theorem splitOn_object {front behind : String} (unbrokenFront : Unbroken front)
    (unbrokenBehind : Unbroken behind) (level : Nat) :
    (front ++ object options level tree ++ behind).toList.splitOn '\n' =
      (bracedLines options.tab level front behind
        (treeLines options.tab options.quotes (level + 1) tree)).map String.toList := by
  rw [← intercalate_bracedLines_treeLines filled]
  apply Text.splitOn_intercalate_newline
  · simp [bracedLines]
  · apply unbroken_bracedLines unbroken.tab unbrokenFront unbrokenBehind
    exact unbroken_treeLines unbroken.tab unbroken.quotes tree unbroken.tree.1 unbroken.tree.2

end

/-- A script whose container has no dot has the lines that the printer prints, between a line that declares
the container and one that closes it. -/
theorem splitOn_render_of_undotted {options : Options} {name : String} {tree : Tree} (filled : tree ≠ [])
    (contained : options.container = some name) (undotted : '.' ∉ name.toList)
    (unbroken : IsUnbroken options tree) :
    (render options tree).toList.splitOn '\n' =
      (("var " ++ name ++ " = \x7b") :: (treeLines options.tab options.quotes 1 tree ++ ["\x7d;"])).map
        String.toList := by
  have unbrokenName : Unbroken name := unbroken.container name contained
  have unbrokenFront : Unbroken ("var " ++ name ++ " = ") := by
    simp only [unbroken_append]
    exact ⟨⟨by decide, unbrokenName⟩, by decide⟩
  rw [render_of_undotted filled contained undotted,
    splitOn_object filled unbroken unbrokenFront (by decide) 0]
  simp [bracedLines, units]

/-- Groups in a group, of which one is empty; a name with hyphens, a text with quotes and commas in it, a
number, and the empty text. -/
theorem splitOn_render_of_undotted_nested :
    let options := { Options.default with container := some "cfg", tab := "\t" }
    let tree : Tree := [("font-size", .group [("a-b", .group []), ("c", .scalar "1.5")]), ("d", .scalar "x', y: \x7b"),
      ("", .scalar "")]
    IsUnbroken options tree ∧
      (render options tree).toList.splitOn '\n' =
        ["var cfg = \x7b", "\tfont_size: \x7b", "\t\ta_b: \x7b\x7d,", "\t\tc: 1.5", "\t\x7d,", "\td: 'x', y: \x7b',",
          "\t: ''", "\x7d;"].map String.toList := by
  intro options tree
  have unbroken : IsUnbroken options tree := ⟨by decide, by decide, by decide, by decide⟩
  refine ⟨unbroken, ?_⟩
  rw [splitOn_render_of_undotted (by decide) rfl (by decide) unbroken]
  decide +kernel

end Varsheet.Script
