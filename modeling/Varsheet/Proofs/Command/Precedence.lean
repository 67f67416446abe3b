import Varsheet.Command.Run
import Varsheet.Proofs.Compile.Sources
import Varsheet.Proofs.Options.Changes
import Varsheet.Proofs.Options.Loading

/-!
# Which options count

The options of a command line stand over those of a file, and these over the defaults. That is one more case of
changes of which the last one counts.

* `Settings.FileSets` : the fields that the file with the options sets
* `Settings.laidOver` : the rule, field by field
* `Settings.laidOver_eq_after` : the rule as two changes
* `Settings.options_eq_ok_iff` : the options of a run follow it
* `options_settled` : the rule for changes and the rule for command lines
-/

namespace Varsheet.Command

namespace Settings

/-- The fields that the file with the options sets. Without a file there are none. -/
def FileSets (settings : Settings) (host : Host) (file : Patch) : Prop :=
  match settings.config with
  | none => file = .empty
  | some path => ∃ text : String, host.read path = .ok text.toUTF8 ∧ Patch.ofJson text = .ok file

/-- Each field as the command line gives it, or else the file, or else by default. Switches turn the closure on
and references off, whatever the file says. -/
def laidOver (settings : Settings) (file : Patch) : Options where
  symbol := (settings.symbol.or file.symbol).getD Options.default.symbol
  container := (settings.container.or file.container).bind fun name => if name = "" then none else some name
  target := ((settings.target.map Target.ofName).or file.target).getD Options.default.target
  quotes := (settings.quotes.or file.quotes).getD Options.default.quotes
  closure := settings.closure || file.closure.getD Options.default.closure
  solve := !settings.noSolve && file.solve.getD Options.default.solve
  tab := (settings.tab.or file.tab).getD Options.default.tab

variable {settings : Settings} {host : Host} {options : Options}

theorem lastGiven_overlay_ofPatch {α : Type} (given : Patch → Option α) (file patch : Patch) :
    Options.lastGiven given [.ofPatch file, .overlay patch] = (given patch).or (given file) := by
  cases upper : given patch <;> cases lower : given file <;>
    simp [Options.lastGiven, Change.sinceReset, Change.resets, Change.patch, upper, lower]

theorem laidOver_eq_after (settings : Settings) (file : Patch) :
    settings.laidOver file = Options.after [.ofPatch file, .overlay settings.patch] := by
  rw [Options.after_eq_settled, Options.settled]
  simp only [lastGiven_overlay_ofPatch, laidOver, patch]
  -- the two switches are the only fields that the command line cannot set both ways
  cases settings.closure <;> cases settings.noSolve <;> rfl

theorem ofPatch_empty : Options.ofPatch .empty = Options.default :=
  Options.proper_default.overlay_empty

theorem options_of_file {path : String} (given : settings.config = some path) :
    settings.options host = .ok options ↔
      ∃ base, Options.ofJsonFile host path = .ok base ∧ options = base.overlay settings.patch := by
  simp only [Settings.options, given]
  cases Options.ofJsonFile host path <;> simp [eq_comm]

theorem options_eq_ok_iff :
    settings.options host = .ok options ↔
      ∃ file, settings.FileSets host file ∧ options = settings.laidOver file := by
  simp only [laidOver_eq_after]
  cases given : settings.config with
  | none =>
    simp only [Settings.options, FileSets, given, exists_eq_left, Except.ok.injEq]
    rw [← ofPatch_empty]
    exact eq_comm
  | some path =>
    rw [options_of_file given]
    simp only [Options.ofJsonFile_eq_ok_iff, Options.ofJson_eq_ok_iff, FileSets, given]
    constructor
    · rintro ⟨base, ⟨text, read, file, loaded, same⟩, laid⟩
      exact ⟨file, ⟨text, read, loaded⟩, by rw [laid, same]; rfl⟩
    · rintro ⟨file, ⟨text, read, loaded⟩, laid⟩
      exact ⟨.ofPatch file, ⟨text, read, file, loaded, rfl⟩, laid⟩

end Settings

/-- Whatever is done to options, each field has the value that it was given last since they were last reset, and
no container is without a name. The options of a command line are those of the file with its own laid over
them, and an empty name takes the container of the file away. -/
theorem options_settled :
    (∀ changes : List Change, Options.after changes = Options.settled changes ∧
        (Options.after changes).container ≠ some "") ∧
      ∀ (settings : Settings) (host : Host),
        (∀ options, settings.options host = .ok options ↔
          ∃ file, settings.FileSets host file ∧ options = settings.laidOver file) ∧
        ∀ file, settings.laidOver file = Options.after [.ofPatch file, .overlay settings.patch] ∧
          (settings.container = some "" → (settings.laidOver file).container = none) := by
  refine ⟨fun changes => ⟨Options.after_eq_settled changes, Options.proper_after changes⟩, ?_⟩
  intro settings host
  refine ⟨fun options => Settings.options_eq_ok_iff, ?_⟩
  intro file
  refine ⟨settings.laidOver_eq_after file, ?_⟩
  intro cleared
  rw [Settings.laidOver, cleared]
  rfl

/-- The file names a container and turns references on; the command line takes both back, and keeps the closure
of the file without asking for it. -/
theorem options_settled_cleared :
    Settings.options { Settings.empty with config := some "c", container := some "", noSolve := true }
        ⟨"", fun _ => .ok "[null, \"a.b\", null, null, true, true]".toUTF8⟩ =
      .ok { Options.default with closure := true, solve := false } := by
  refine ((options_settled.2 _ _).1 _).2 ⟨{ Patch.empty with
    container := some "a.b", closure := some true, solve := some true }, ⟨_, rfl, ?_⟩, rfl⟩
  decide +kernel

end Varsheet.Command
