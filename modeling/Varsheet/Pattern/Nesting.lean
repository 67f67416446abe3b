/-!
# Nesting

How deep the parts of a pattern stand in each other.

* `Row` : parts that stand side by side
-/

namespace Varsheet.Pattern

/-- Parts that stand side by side: how many, and how deep the deepest of them is. -/
structure Row where
  count : Nat := 0
  deepest : Nat := 0
deriving DecidableEq, Repr

namespace Row

/-- A row with one part more. -/
def add (row : Row) (depth : Nat) : Row :=
  ⟨row.count + 1, max row.deepest depth⟩

/-- How deep a row is. It adds to the depth of its parts only where there are several. -/
def depth (row : Row) : Nat :=
  if row.count ≤ 1 then row.deepest else row.deepest + 1

end Row

end Varsheet.Pattern
