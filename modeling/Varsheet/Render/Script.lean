import Varsheet.Options.Basic
import Varsheet.Tree.Basic

/-!
# Scripts

A tree as declarations of a script. Groups are written as object literals over several lines.

* `Script.identifier` : the name that is declared for a key
* `Script.isNumeric` : the texts that are written without quotes
* `Script.object` : a group
* `Script.render` : a whole script
* `Script.render_of_none`, `Script.render_of_undotted`, `Script.render_of_dotted`, `Script.render_of_closure` :
  what a script consists of, by the kind of its container
-/

namespace Varsheet.Script

/-- The name that is declared for a key: hyphens become underscores. -/
def identifier (key : String) : String :=
  String.ofList (key.toList.map fun c => if c = '-' then '_' else c)

/-- Whether a text is written without quotes: it has at least one character, and all of them are
digits or dots. -/
def isNumeric (text : String) : Bool :=
  !text.toList.isEmpty && text.toList.all fun c => c.isDigit || c = '.'

/-- A text as it is written in a script. Nothing in it is escaped. -/
def literal (quotes : String) (text : String) : String :=
  if isNumeric text then text else quotes ++ text ++ quotes

/-- So many units of indentation. -/
def indent (tab : String) (level : Nat) : String :=
  String.join (List.replicate level tab)

/-- Entries in the braces of an object literal whose closing brace stands at `level`. -/
def braces (tab : String) (level : Nat) (entries : List String) : String :=
  if entries.isEmpty then "\x7b\x7d"
  else
    let inner := indent tab (level + 1)
    "\x7b\n" ++ inner ++ String.intercalate (",\n" ++ inner) entries ++ "\n" ++ indent tab level ++
      "\x7d"

mutual

/-- A value; the closing brace of a group stands at `level`. -/
def value (options : Options) (level : Nat) : Value → String
  | .scalar text => literal options.quotes text
  | .group children => braces options.tab level (entries options ": " (level + 1) children)

/-- Each entry with `assign` between its name and its value. -/
def entries (options : Options) (assign : String) (level : Nat) :
    List (String × Value) → List String
  | [] => []
  | (key, content) :: rest =>
    (identifier key ++ assign ++ value options level content) :: entries options assign level rest

end

/-- A tree as an object literal whose closing brace stands at `level`. -/
def object (options : Options) (level : Nat) (tree : Tree) : String :=
  braces options.tab level (entries options ": " (level + 1) tree)

/-- A tree as a script. Without a container each name is declared on its own. A container without a
dot is declared as one variable; one with a dot is assigned to, inside a strict function if the options
ask for it. An empty tree gives an empty script. -/
def render (options : Options) (tree : Tree) : String :=
  if tree.isEmpty then ""
  else
    match options.container with
    | none =>
      "var " ++ String.intercalate (",\n" ++ indent options.tab 1) (entries options " = " 1 tree) ++
        ";"
    | some name =>
      if '.' ∉ name.toList then "var " ++ name ++ " = " ++ object options 0 tree ++ ";"
      else if options.closure then
        "(function() \x7b\n" ++ options.tab ++ "'use strict';\n" ++ options.tab ++ name ++ " = " ++
          object options 1 tree ++ ";\n\x7d());"
      else name ++ " = " ++ object options 0 tree ++ ";"

section

variable {options : Options} {tree : Tree} {name : String} (filled : tree ≠ [])

include filled

theorem render_of_none (bare : options.container = none) :
    render options tree =
      "var " ++ String.intercalate (",\n" ++ indent options.tab 1) (entries options " = " 1 tree) ++
        ";" := by
  simp [render, filled, bare]

theorem render_of_undotted (contained : options.container = some name) (undotted : '.' ∉ name.toList) :
    render options tree = "var " ++ name ++ " = " ++ object options 0 tree ++ ";" := by
  simp [render, filled, contained, undotted]

theorem render_of_dotted (contained : options.container = some name) (dotted : '.' ∈ name.toList)
    (unclosed : options.closure = false) :
    render options tree = name ++ " = " ++ object options 0 tree ++ ";" := by
  simp [render, filled, contained, dotted, unclosed]

theorem render_of_closure (contained : options.container = some name) (dotted : '.' ∈ name.toList)
    (closed : options.closure = true) :
    render options tree =
      "(function() \x7b\n" ++ options.tab ++ "'use strict';\n" ++ options.tab ++ name ++ " = " ++
        object options 1 tree ++ ";\n\x7d());" := by
  simp [render, filled, contained, dotted, closed]

end

end Varsheet.Script
