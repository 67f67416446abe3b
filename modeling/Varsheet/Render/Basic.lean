import Varsheet.Job
import Varsheet.Render.Script
import Varsheet.Render.Stylesheet

/-!
# Rendering

* `render` : a tree as the kind of output that the options ask for
-/

namespace Varsheet

/-- A tree as the kind of output that the options ask for. -/
def renderText (options : Options) (tree : Tree) : String :=
  match options.target with
  | .script => Script.render options tree
  | .stylesheet => Stylesheet.render options tree

/-- A tree as the kind of output that the options ask for, reported as an event. -/
def render (options : Options) (tree : Tree) : Job String :=
  ⟨[.rendering tree.length options.target], .ok (renderText options tree)⟩

end Varsheet
