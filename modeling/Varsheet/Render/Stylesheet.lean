import Varsheet.Options.Basic
import Varsheet.Tree.Basic

/-!
# Stylesheets

A tree as variables of a stylesheet: one line for each text, named by the names on the way to it.

* `Stylesheet.declarations` : the lines of a tree
* `Stylesheet.render` : a whole stylesheet
-/

namespace Varsheet.Stylesheet

/-- The name of an entry, which starts with the name of the group that it stands in. -/
def qualify (outer : Option String) (key : String) : String :=
  match outer with
  | some name => name ++ "-" ++ key
  | none => key

mutual

/-- The lines of a value with the given full name. -/
def valueDeclarations (symbol : String) (name : String) : Value → List String
  | .scalar text => [symbol ++ name ++ ": " ++ text ++ ";"]
  | .group children => declarations symbol (some name) children

/-- The lines of the entries of a group, or of the root. An empty group has none. -/
def declarations (symbol : String) (outer : Option String) : List (String × Value) → List String
  | [] => []
  | (key, value) :: rest =>
    valueDeclarations symbol (qualify outer key) value ++ declarations symbol outer rest

end

/-- A tree as a stylesheet, without an end of line after the last one. -/
def render (options : Options) (tree : Tree) : String :=
  String.intercalate "\n" (declarations options.symbol none tree)

end Varsheet.Stylesheet
