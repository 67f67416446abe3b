import Varsheet.Document.Reader
import Varsheet.Files.Path
import Varsheet.Options.Loader
import Varsheet.Reference
import Varsheet.Render.Basic
import Varsheet.Render.Json

/-!
# Compiling sheets

From the text or the file of a sheet to its output.

* `Host` : the home directory and the files of a machine
* `load` : reads a sheet and replaces its references
* `compile`, `compileToJson` : the output for a text
* `readSource`, `compileFile` : the same for files
* `Options.ofJsonFile` : options from a file
-/

namespace Varsheet

/-- What a machine provides. -/
structure Host where
  home : String
  read : String → Except FileKind ByteArray

/-- Bytes as text. -/
def decodeText (path : String) (bytes : ByteArray) : Except Fault String :=
  match String.fromUTF8? bytes with
  | some text => .ok text
  | none => .error (.unreadable path .notText FileKind.notText.message)

/-- The text of a file. -/
def Host.readText (host : Host) (path : String) : Except Fault String :=
  match host.read path with
  | .ok bytes => decodeText path bytes
  | .error kind => .error (.unreadable path kind kind.message)

/-- Reads a sheet and replaces its references as the options say. -/
def load (options : Options) (text : String) : Job Tree := do
  let tree ← Document.parseWith options.tab text
  Reference.apply options tree

/-- The output for a sheet. -/
def compile (options : Options) (text : String) : Job String := do
  let tree ← load options text
  render options tree

/-- The tree of a sheet as JSON. -/
def compileToJson (options : Options) (text : String) : Job String := do
  let tree ← load options text
  return JsonText.render tree

/-- The text of the file of a sheet. A first piece `~` of the path stands for the home directory. -/
def readSource (host : Host) (path : String) : Job String :=
  let expanded := Path.expandHome host.home path
  ⟨[.reading expanded], host.readText expanded⟩

/-- The output for the file of a sheet. -/
def compileFile (host : Host) (options : Options) (path : String) : Job String := do
  let text ← readSource host path
  compile options text

/-- The options that a file sets, over the defaults. -/
def Options.ofJsonFile (host : Host) (path : String) : Except Fault Options :=
  match host.readText path with
  | .ok text => Options.ofJson text
  | .error fault => .error fault

end Varsheet
