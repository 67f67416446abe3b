import Varsheet.Command.Args
import Varsheet.Compile
import Varsheet.Event.Filter

/-!
# Running a command line

* `help` : the help text
* `execute` : the output that settings ask for
* `run` : what a command line prints, and its exit code
-/

namespace Varsheet.Command

/-- The lines of the help text. -/
def helpLines : List String :=
  [
      "Compile jessy config files into JavaScript or Sass variables",
      "",
      "Usage: jessy [OPTIONS] [INPUT]",
      "",
      "Arguments:",
      "  [INPUT]  Input file (reads from stdin if not provided)",
      "",
      "Options:",
      "  -t, --target <TARGET>        Output target: \"js\", or any stylesheet name such as \"sass\"",
      "  -n, --namespace <NAMESPACE>  Container name or dotted path for the JavaScript output",
      "      --symbol <SYMBOL>        Reference marker and Sass variable prefix",
      "  -q, --quotes <QUOTES>        Quote character for string values",
      "  -c, --closure                Wrap dotted-namespace output in a strict-mode closure",
      "      --no-solve               Leave $references untouched",
      "      --tab <TAB>              Indentation unit",
      "      --config <CONFIG>        Options file (JSON); command-line flags take precedence",
      "      --json                   Print the resolved tree as JSON instead of rendering it",
      "  -v, --verbose                Enable debug logging",
      "  -h, --help                   Print help"
  ]

/-- The help text. -/
def help : String :=
  String.join (helpLines.map (· ++ "\n"))

/-- What is printed for a command line that cannot be read. -/
def usage : String :=
  "error: invalid arguments\n\nUsage: jessy [OPTIONS] [INPUT]\n\nFor more information, try '--help'.\n"

/-- Where a command line is run. -/
structure World where
  host : Host
  /-- All that can be read from standard input. -/
  stdin : ByteArray
  /-- Which events are to be shown, if that is set outside of the command line. -/
  logging : Option String

/-- What a command line does to the outside. -/
structure Outcome where
  exit : Nat
  stdout : String
  stderr : String
deriving DecidableEq, Repr

/-! ## Events on a terminal -/

/-- A character of an event as it is printed: those that could steer a terminal are escaped. -/
def showChar (c : Char) : String :=
  match c with
  | '\x07' => "\\x07"
  | '\x08' => "\\x08"
  | '\x0C' => "\\x0c"
  | '\x1B' => "\\x1b"
  | '\x7F' => "\\x7f"
  | _ =>
    if 0x80 ≤ c.toNat ∧ c.toNat ≤ 0x9F then Text.codePoint c else String.singleton c

/-- An event as it is printed, with the end of its line. -/
def showEvent (event : Event) : String :=
  event.severity.name ++ " " ++ event.origin ++ ": " ++
    String.join (event.text.toList.map showChar) ++ "\n"

/-- The events that are printed: all but the most detailed ones if the command line asks for them,
and else what is set outside, or nothing but warnings. -/
def logFilter (verbose : Bool) (logging : Option String) : Filter :=
  if verbose then .atLeast .debug
  else (logging.bind Filter.parse?).getD (.atLeast .warn)

/-! ## Running -/

/-- The options of a run: those of the command line over those of the file, over the defaults. -/
def Settings.options (settings : Settings) (host : Host) : Except Fault Options :=
  match settings.config with
  | none => .ok (Options.default.overlay settings.patch)
  | some path =>
    match Options.ofJsonFile host path with
    | .ok base => .ok (base.overlay settings.patch)
    | .error fault => .error fault

/-- The sheet of a run. -/
def Settings.source (settings : Settings) (world : World) : Job String :=
  match settings.input with
  | some path => readSource world.host path
  | none => .ofExcept (decodeText "<stdin>" world.stdin)

/-- The output that settings ask for. The options are read first, then the sheet. -/
def execute (settings : Settings) (world : World) : Job String := do
  let options ← .ofExcept (settings.options world.host)
  let text ← settings.source world
  if settings.json then compileToJson options text else compile options text

/-- What a finished job prints. -/
def report (filter : Filter) (job : Job String) : Outcome :=
  let log := String.join ((job.events.filter filter.admits).map showEvent)
  match job.result with
  | .ok output => ⟨0, output ++ "\n", log⟩
  | .error fault => ⟨1, "", log ++ fault.message ++ "\n"⟩

/-- What a command line prints, and its exit code. -/
def run (args : List String) (world : World) : Outcome :=
  match Request.ofArgs args with
  | .help => ⟨0, help, ""⟩
  | .mistake => ⟨2, "", usage⟩
  | .run settings => report (logFilter settings.verbose world.logging) (execute settings world)

end Varsheet.Command
