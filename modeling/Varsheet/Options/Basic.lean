/-!
# Options

How sheets are read and rendered: seven fields, each with a default, and patches that set some of
them.

* `Target` : the kind of output
* `Options`, `Options.default` : a complete record
* `Patch` : a record in which every field may be missing
* `Options.overlay`, `Options.ofPatch` : a patch laid over a record, or over the defaults
* `Options.with…` : one field set
-/

namespace Varsheet

/-- The kind of output. -/
inductive Target where
  | script
  | stylesheet
deriving DecidableEq, Repr, Inhabited

namespace Target

/-- Only the exact name `js` stands for scripts. Every other name is taken for a kind of
stylesheet. -/
def ofName (name : String) : Target :=
  if name = "js" then .script else .stylesheet

/-- The short name of a target, from which it can be read back. -/
def name : Target → String
  | .script => "js"
  | .stylesheet => "sass"

@[simp] theorem ofName_name (target : Target) : ofName target.name = target := by
  cases target <;> decide

end Target

/-- How a sheet is read and rendered. -/
structure Options where
  /-- The marker of references, which also starts each variable name of a stylesheet. -/
  symbol : String
  /-- The variable or dotted path that receives the whole tree in a script. -/
  container : Option String
  target : Target
  /-- What is written before and after a text in a script. -/
  quotes : String
  /-- Whether an assignment to a dotted path is wrapped in a strict function. -/
  closure : Bool
  /-- Whether references are replaced. -/
  solve : Bool
  /-- The unit of indentation, when reading and when writing. -/
  tab : String
deriving DecidableEq, Repr

/-- Options of which any may be missing. -/
structure Patch where
  symbol : Option String
  container : Option String
  target : Option Target
  quotes : Option String
  closure : Option Bool
  solve : Option Bool
  tab : Option String
deriving DecidableEq, Repr

/-- The patch that sets nothing. -/
def Patch.empty : Patch :=
  ⟨none, none, none, none, none, none, none⟩

namespace Options

/-- The unit of indentation unless another one is given: four spaces. -/
def defaultTab : String := "    "

/-- The options of a run for which nothing was set. -/
def default : Options :=
  ⟨"$", none, .script, "'", false, true, defaultTab⟩

instance : Inhabited Options := ⟨default⟩

/-- An empty name is no name. -/
def nonempty (name : Option String) : Option String :=
  name.filter (· ≠ "")

/-- Every field that the patch sets is taken from it, every other one stays. A container that comes
out empty is dropped, whichever side it came from. -/
def overlay (base : Options) (patch : Patch) : Options where
  symbol := patch.symbol.getD base.symbol
  container := nonempty (patch.container.or base.container)
  target := patch.target.getD base.target
  quotes := patch.quotes.getD base.quotes
  closure := patch.closure.getD base.closure
  solve := patch.solve.getD base.solve
  tab := patch.tab.getD base.tab

/-- A patch laid over the defaults. -/
def ofPatch (patch : Patch) : Options :=
  default.overlay patch

/-! ## Setting one field -/

def withSymbol (options : Options) (symbol : String) : Options :=
  { options with symbol }

/-- An empty name takes the container away. -/
def withContainer (options : Options) (name : String) : Options :=
  { options with container := nonempty (some name) }

def withTarget (options : Options) (target : Target) : Options :=
  { options with target }

def withQuotes (options : Options) (quotes : String) : Options :=
  { options with quotes }

def withClosure (options : Options) (closure : Bool) : Options :=
  { options with closure }

def withSolve (options : Options) (solve : Bool) : Options :=
  { options with solve }

def withTab (options : Options) (tab : String) : Options :=
  { options with tab }

theorem nonempty_ne_some_empty (name : Option String) : nonempty name ≠ some "" := by
  cases name with
  | none => simp [nonempty]
  | some text => by_cases h : text = "" <;> simp [nonempty, Option.filter, h]

end Options

end Varsheet
