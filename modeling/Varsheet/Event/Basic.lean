import Varsheet.Options.Basic

/-!
# Events

What is reported while a sheet is compiled, and how a report is written.

* `Severity` : how important an event is
* `Event`, `Event.report` : an event and its line of text
* `Event.fields` : the names under which an event keeps its parts
-/

namespace Varsheet

/-- How important an event is, the most detailed kind first. -/
inductive Severity where
  | trace
  | debug
  | info
  | warn
  | error
deriving DecidableEq, Repr

namespace Severity

def rank : Severity → Nat
  | .trace => 0
  | .debug => 1
  | .info => 2
  | .warn => 3
  | .error => 4

def name : Severity → String
  | .trace => "TRACE"
  | .debug => "DEBUG"
  | .info => "INFO"
  | .warn => "WARN"
  | .error => "ERROR"

end Severity

/-- What is reported while a sheet is compiled. -/
inductive Event where
  /-- A file is about to be read. -/
  | reading (path : String)
  /-- A sheet of so many lines was read into a tree with so many names. -/
  | parsed (lines : Nat) (keys : Nat)
  /-- References stay as they are. -/
  | resolutionOff
  /-- The text under a name was a reference and has been replaced. -/
  | substituting (key : String) (text : String)
  /-- All references have been replaced. -/
  | resolved (count : Nat)
  /-- A tree with so many names is about to be rendered. -/
  | rendering (keys : Nat) (target : Target)
deriving DecidableEq, Repr

namespace Event

def severity : Event → Severity
  | .substituting _ _ => .trace
  | _ => .debug

/-- The part of the program that reports the event. -/
def origin : Event → String
  | .reading _ => "jessy::pipeline"
  | .parsed _ _ => "jessy::parser"
  | .resolutionOff => "jessy::resolver"
  | .substituting _ _ => "jessy::resolver"
  | .resolved _ => "jessy::resolver"
  | .rendering _ _ => "jessy::export"

def text : Event → String
  | .reading path => "reading " ++ path
  | .parsed lines keys =>
    "parsed " ++ toString lines ++ " lines into " ++ toString keys ++ " top-level keys"
  | .resolutionOff => "reference resolution disabled"
  | .substituting key text => key ++ ": substituting " ++ text
  | .resolved count => "resolved " ++ toString count ++ " reference(s)"
  | .rendering keys target =>
    "rendering " ++ toString keys ++ " top-level keys as " ++
      (match target with
        | .script => "Js"
        | .stylesheet => "Sass")

/-- The names under which an event keeps its parts, the same for all events. -/
def fields : List String :=
  ["message", "log.target", "log.module_path", "log.file", "log.line"]

/-- The event as a line of text, without its end. -/
def report (event : Event) : String :=
  event.severity.name ++ " " ++ event.origin ++ ": " ++ event.text

end Event

end Varsheet
