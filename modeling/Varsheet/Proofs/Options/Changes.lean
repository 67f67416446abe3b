import Varsheet.Options.Loader

/-!
# The last change wins

Options can be changed again and again: by patches, by JSON texts, and field by field. Some changes first go back
to the defaults. What comes of any number of changes is said here without following them one by one: each field
has the value that it was given last since the options were last reset.

* `Change`, `Options.apply`, `Options.after` : what can be done to options, and what comes of it
* `Change.resets`, `Change.patch` : what a change forgets, and what it sets
* `Options.lastGiven`, `Options.settled` : the rule
* `Options.apply_eq_overlay` : every change is a patch laid over the options or over the defaults
* `Options.after_eq_settled` : changes one after another follow the rule
-/

namespace Varsheet

/-- What can be done to a record of options. -/
inductive Change where
  /-- A patch over the defaults. -/
  | ofPatch (patch : Patch)
  | overlay (patch : Patch)
  /-- A JSON text over the defaults. A text that cannot be loaded changes nothing. -/
  | ofJson (text : String)
  | withSymbol (symbol : String)
  | withContainer (name : String)
  | withTarget (target : Target)
  | withQuotes (quotes : String)
  | withClosure (closure : Bool)
  | withSolve (solve : Bool)
  | withTab (tab : String)
deriving DecidableEq, Repr

namespace Change

/-- Whether a change goes back to the defaults first. -/
def resets : Change → Bool
  | .ofPatch _ => true
  | .ofJson text => (Patch.ofJson text).isOk
  | _ => false

/-- The fields that a change sets. -/
def patch : Change → Patch
  | .ofPatch patch => patch
  | .overlay patch => patch
  | .ofJson text => (Patch.ofJson text).toOption.getD .empty
  | .withSymbol symbol => { Patch.empty with symbol := some symbol }
  | .withContainer name => { Patch.empty with container := some name }
  | .withTarget target => { Patch.empty with target := some target }
  | .withQuotes quotes => { Patch.empty with quotes := some quotes }
  | .withClosure closure => { Patch.empty with closure := some closure }
  | .withSolve solve => { Patch.empty with solve := some solve }
  | .withTab tab => { Patch.empty with tab := some tab }

/-- The changes from the last one on that resets the options, or all of them if none does. -/
def sinceReset : List Change → List Change
  | [] => []
  | change :: later => if later.any resets then sinceReset later else change :: later

end Change

namespace Options

open Change

def apply (options : Options) : Change → Options
  | .ofPatch patch => .ofPatch patch
  | .overlay patch => options.overlay patch
  | .ofJson text =>
    match Options.ofJson text with
    | .ok loaded => loaded
    | .error _ => options
  | .withSymbol symbol => options.withSymbol symbol
  | .withContainer name => options.withContainer name
  | .withTarget target => options.withTarget target
  | .withQuotes quotes => options.withQuotes quotes
  | .withClosure closure => options.withClosure closure
  | .withSolve solve => options.withSolve solve
  | .withTab tab => options.withTab tab

/-- What comes of changes to the defaults, one after another. -/
def after (changes : List Change) : Options :=
  changes.foldl apply default

/-- The value that a field was given last since the options were last reset. -/
def lastGiven {α : Type} (given : Patch → Option α) (changes : List Change) : Option α :=
  ((sinceReset changes).filterMap fun change => given change.patch).getLast?

/-- The options in which every field has the value that it was given last, or its default. An empty name for
the container takes it away. -/
def settled (changes : List Change) : Options where
  symbol := (lastGiven Patch.symbol changes).getD default.symbol
  container := (lastGiven Patch.container changes).bind fun name => if name = "" then none else some name
  target := (lastGiven Patch.target changes).getD default.target
  quotes := (lastGiven Patch.quotes changes).getD default.quotes
  closure := (lastGiven Patch.closure changes).getD default.closure
  solve := (lastGiven Patch.solve changes).getD default.solve
  tab := (lastGiven Patch.tab changes).getD default.tab

/-! ## One change -/

/-- The container, if there is one, has a name. -/
def Proper (options : Options) : Prop :=
  options.container ≠ some ""

theorem proper_default : default.Proper :=
  nofun

theorem proper_overlay (base : Options) (patch : Patch) : (base.overlay patch).Proper :=
  nonempty_ne_some_empty _

variable {options : Options}

theorem Proper.nonempty_container (proper : options.Proper) :
    nonempty options.container = options.container := by
  cases named : options.container with
  | none => rfl
  | some name =>
    have filled : name ≠ "" := by
      intro empty
      exact proper (empty ▸ named)
    simp [nonempty, Option.filter, filled]

theorem Proper.overlay_empty (proper : options.Proper) : options.overlay .empty = options := by
  obtain ⟨symbol, container, target, quotes, closure, solve, tab⟩ := options
  have same := proper.nonempty_container
  simp only [overlay, Patch.empty, Option.getD_none, Option.none_or, same]

/-- Every change is a patch laid over the options, or over the defaults if it resets them. -/
theorem apply_eq_overlay (proper : options.Proper) (change : Change) :
    options.apply change = (if change.resets then default else options).overlay change.patch := by
  -- a patch that leaves the container alone goes over it once more, which needs it to have a name
  have same := proper.nonempty_container
  cases change with
  | ofPatch patch => rfl
  | overlay patch => rfl
  | ofJson text =>
    cases loaded : Patch.ofJson text with
    | ok patch =>
      simp only [apply, resets, Change.patch, Options.ofJson, loaded]
      rfl
    | error problem =>
      simp only [apply, resets, Change.patch, Options.ofJson, loaded]
      exact proper.overlay_empty.symm
  | withContainer name => rfl
  | withSymbol | withTarget | withQuotes | withClosure | withSolve | withTab =>
    simp [apply, resets, Change.patch, overlay, Patch.empty, same, withSymbol, withTarget, withQuotes, withClosure,
      withSolve, withTab]

theorem Proper.apply (proper : options.Proper) (change : Change) : (options.apply change).Proper := by
  rw [apply_eq_overlay proper]
  exact proper_overlay _ _

/-! ## Any number of changes -/

theorem proper_after (changes : List Change) : (after changes).Proper := by
  suffices kept : ∀ options : Options, options.Proper → (changes.foldl Options.apply options).Proper from
    kept default proper_default
  induction changes with
  | nil => exact fun options proper => proper
  | cons change later inductionHypothesis =>
    exact fun options proper => inductionHypothesis _ (proper.apply change)

theorem sinceReset_of_none {changes : List Change} (kept : changes.any resets = false) :
    sinceReset changes = changes := by
  cases changes with
  | nil => rfl
  | cons change later =>
    rw [List.any_cons, Bool.or_eq_false_iff] at kept
    rw [sinceReset, kept.2]
    rfl

/-- What came before the last reset is forgotten, and from there on patches are laid one over another. -/
theorem foldl_apply (changes : List Change) (proper : options.Proper) :
    changes.foldl apply options =
      ((sinceReset changes).map Change.patch).foldl overlay
        (if changes.any resets then default else options) := by
  induction changes generalizing options with
  | nil => rfl
  | cons change later inductionHypothesis =>
    rw [List.foldl_cons, inductionHypothesis (proper.apply change), sinceReset, List.any_cons]
    cases reset : later.any resets with
    | true => simp
    | false =>
      -- nothing is forgotten behind this change, so it is the first one that counts
      rw [sinceReset_of_none reset, apply_eq_overlay proper change]
      simp

/-- A field that each patch overrides if it gives a value has the last value given in the end. -/
theorem get_foldl_overlay {α : Type} (get : Options → α) (given : Patch → Option α)
    (overridden : ∀ base patch, Proper base → get (base.overlay patch) = (given patch).getD (get base))
    (patches : List Patch) (proper : options.Proper) :
    get (patches.foldl overlay options) = ((patches.filterMap given).getLast?).getD (get options) := by
  induction patches generalizing options with
  | nil => rfl
  | cons patch later inductionHypothesis =>
    rw [List.foldl_cons, inductionHypothesis (proper_overlay _ _), overridden _ _ proper, List.filterMap_cons]
    cases given patch with
    | none => rfl
    | some value => rw [List.getLast?_cons, Option.getD_some, Option.getD_some]

theorem get_after {α : Type} (get : Options → α) (given : Patch → Option α)
    (overridden : ∀ base patch, Proper base → get (base.overlay patch) = (given patch).getD (get base))
    (changes : List Change) : get (after changes) = (lastGiven given changes).getD (get default) := by
  rw [after, foldl_apply changes proper_default, ite_self, get_foldl_overlay get given overridden _ proper_default,
    List.filterMap_map]
  rfl

theorem container_overlay (base : Options) (patch : Patch) (proper : base.Proper) :
    (base.overlay patch).container =
      (patch.container.map fun name => nonempty (some name)).getD base.container := by
  rw [overlay]
  cases patch.container with
  | none => exact proper.nonempty_container
  | some name => rfl

theorem lastGiven_map {α β : Type} (given : Patch → Option α) (f : α → β) (changes : List Change) :
    lastGiven (fun patch => (given patch).map f) changes = (lastGiven given changes).map f := by
  rw [lastGiven, lastGiven, ← List.getLast?_map, List.map_filterMap]

theorem container_after (changes : List Change) :
    (after changes).container =
      (lastGiven Patch.container changes).bind fun name => if name = "" then none else some name := by
  rw [get_after Options.container _ container_overlay, lastGiven_map]
  cases lastGiven Patch.container changes with
  | none => rfl
  | some name => by_cases empty : name = "" <;> simp [nonempty, Option.filter, empty]

/-- Each field has the value that it was given last since the last reset. -/
theorem after_eq_settled (changes : List Change) : after changes = settled changes := by
  have symbol := get_after Options.symbol Patch.symbol (fun _ _ _ => rfl) changes
  have target := get_after Options.target Patch.target (fun _ _ _ => rfl) changes
  have quotes := get_after Options.quotes Patch.quotes (fun _ _ _ => rfl) changes
  have closure := get_after Options.closure Patch.closure (fun _ _ _ => rfl) changes
  have solve := get_after Options.solve Patch.solve (fun _ _ _ => rfl) changes
  have tab := get_after Options.tab Patch.tab (fun _ _ _ => rfl) changes
  rw [settled, ← symbol, ← container_after, ← target, ← quotes, ← closure, ← solve, ← tab]

end Options

end Varsheet
