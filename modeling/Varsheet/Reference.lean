import Varsheet.Job
import Varsheet.Tree.Basic

/-!
# References

A text that consists of the marker and a name at the root of the tree is a reference to the value
under that name. All references are looked up in the tree as it was given, so a value that has been put
in place of a reference is not looked at again.

* `Reference.target?` : the value that a text refers to
* `Reference.resolve` : replaces all references of a tree and reports each of them
* `Reference.apply` : does so unless the options say otherwise
-/

namespace Varsheet.Reference

/-- The value that a text refers to, if it is a reference to a name at the root. -/
def target? (symbol : String) (root : Tree) (text : String) : Option Value :=
  (symbol.toList.isPrefixOf? text.toList).bind fun name => root.get? (String.ofList name)

mutual

/-- A value with its references replaced, and the events that report it. `key` is the name that the
value stands under. -/
def resolveValue (symbol : String) (root : Tree) (key : String) : Value → Value × List Event
  | .scalar text =>
    match target? symbol root text with
    | some found => (found, [.substituting key text])
    | none => (.scalar text, [])
  | .group entries =>
    let resolved := resolveEntries symbol root entries
    (.group resolved.1, resolved.2)

/-- Entries with their references replaced, and the events that report it. -/
def resolveEntries (symbol : String) (root : Tree) : List (String × Value) → Tree × List Event
  | [] => ([], [])
  | (key, value) :: rest =>
    let first := resolveValue symbol root key value
    let others := resolveEntries symbol root rest
    ((key, first.1) :: others.1, first.2 ++ others.2)

end

/-- Replaces all references of a tree. Without a marker there are none. -/
def resolve (symbol : String) (tree : Tree) : Job Tree :=
  if symbol = "" ∨ tree = [] then pure tree
  else
    let resolved := resolveEntries symbol tree tree
    ⟨resolved.2 ++ [.resolved resolved.2.length], .ok resolved.1⟩

/-- Replaces all references of a tree if the options ask for it. -/
def apply (options : Options) (tree : Tree) : Job Tree :=
  if options.solve then resolve options.symbol tree else ⟨[.resolutionOff], .ok tree⟩

end Varsheet.Reference
