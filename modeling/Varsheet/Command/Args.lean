import Varsheet.Options.Basic

/-!
# Arguments of the command line

Arguments are read from left to right. The first mistake ends the reading, and so does a request for
help.

* `Setting`, `Switch` : options with a value, and options without one
* `Settings` : what a command line asks for
* `Request`, `Request.ofArgs` : the meaning of a whole command line
-/

namespace Varsheet.Command

/-- An option that takes a value. -/
inductive Setting where
  | target
  | container
  | symbol
  | quotes
  | tab
  | config
deriving DecidableEq, Repr

namespace Setting

def all : List Setting :=
  [.target, .container, .symbol, .quotes, .tab, .config]

/-- The long name, which follows two hyphens. -/
def longName : Setting → String
  | .target => "target"
  | .container => "namespace"
  | .symbol => "symbol"
  | .quotes => "quotes"
  | .tab => "tab"
  | .config => "config"

/-- The letter that follows one hyphen. -/
def letter? : Setting → Option Char
  | .target => some 't'
  | .container => some 'n'
  | .quotes => some 'q'
  | _ => none

def ofLong? (name : String) : Option Setting :=
  all.find? fun setting => setting.longName = name

def ofLetter? (letter : Char) : Option Setting :=
  all.find? fun setting => setting.letter? = some letter

end Setting

/-- An option that takes no value. -/
inductive Switch where
  | closure
  | noSolve
  | json
  | verbose
deriving DecidableEq, Repr

namespace Switch

def all : List Switch :=
  [.closure, .noSolve, .json, .verbose]

/-- The long name, which follows two hyphens. -/
def longName : Switch → String
  | .closure => "closure"
  | .noSolve => "no-solve"
  | .json => "json"
  | .verbose => "verbose"

/-- The letter that follows one hyphen. -/
def letter? : Switch → Option Char
  | .closure => some 'c'
  | .verbose => some 'v'
  | _ => none

def ofLong? (name : String) : Option Switch :=
  all.find? fun switch => switch.longName = name

def ofLetter? (letter : Char) : Option Switch :=
  all.find? fun switch => switch.letter? = some letter

end Switch

/-- What a command line asks for. -/
structure Settings where
  /-- The file to read; without one the sheet comes from standard input. -/
  input : Option String
  target : Option String
  container : Option String
  symbol : Option String
  quotes : Option String
  tab : Option String
  /-- The file with the options. -/
  config : Option String
  closure : Bool
  noSolve : Bool
  json : Bool
  verbose : Bool
deriving DecidableEq, Repr

namespace Settings

/-- The settings of an empty command line. -/
def empty : Settings :=
  ⟨none, none, none, none, none, none, none, false, false, false, false⟩

/-- The value of an option. -/
def get? (settings : Settings) : Setting → Option String
  | .target => settings.target
  | .container => settings.container
  | .symbol => settings.symbol
  | .quotes => settings.quotes
  | .tab => settings.tab
  | .config => settings.config

/-- Whether an option without a value is given. -/
def isOn (settings : Settings) : Switch → Bool
  | .closure => settings.closure
  | .noSolve => settings.noSolve
  | .json => settings.json
  | .verbose => settings.verbose

/-- Gives an option its value. Each option can be given once, and a file name is never empty. -/
def set? (settings : Settings) (setting : Setting) (value : String) : Option Settings :=
  if (settings.get? setting).isSome then none
  else
    match setting with
    | .target => some { settings with target := some value }
    | .container => some { settings with container := some value }
    | .symbol => some { settings with symbol := some value }
    | .quotes => some { settings with quotes := some value }
    | .tab => some { settings with tab := some value }
    | .config => if value = "" then none else some { settings with config := some value }

/-- Gives an option without a value, at most once. -/
def turnOn? (settings : Settings) (switch : Switch) : Option Settings :=
  if settings.isOn switch then none
  else
    match switch with
    | .closure => some { settings with closure := true }
    | .noSolve => some { settings with noSolve := true }
    | .json => some { settings with json := true }
    | .verbose => some { settings with verbose := true }

/-- Names the file to read, at most once. A file name is never empty. -/
def setInput? (settings : Settings) (path : String) : Option Settings :=
  if settings.input.isSome || path = "" then none else some { settings with input := some path }

/-- The options that the command line sets. Switches can only turn the closure on and references
off. -/
def patch (settings : Settings) : Patch where
  symbol := settings.symbol
  container := settings.container
  target := settings.target.map Target.ofName
  quotes := settings.quotes
  closure := if settings.closure then some true else none
  solve := if settings.noSolve then some false else none
  tab := settings.tab

end Settings

/-! ## Reading arguments -/

/-- What a command line means. -/
inductive Request where
  | run (settings : Settings)
  | help
  | mistake
deriving DecidableEq, Repr

/-- An argument by its form. -/
inductive Argument where
  /-- Two hyphens alone: only file names follow. -/
  | divider
  /-- Two hyphens, a name, and a value if an equals sign follows. -/
  | long (name : String) (value : Option String)
  /-- One hyphen and letters. -/
  | letters (text : List Char)
  /-- Anything else, also a hyphen alone. -/
  | plain (text : String)
deriving DecidableEq, Repr

/-- The form of an argument. -/
def Argument.ofString (text : String) : Argument :=
  match text.toList with
  | ['-', '-'] => .divider
  | '-' :: '-' :: body =>
    match body.dropWhile (· ≠ '=') with
    | [] => .long (String.ofList body) none
    | _ :: value => .long (String.ofList (body.takeWhile (· ≠ '='))) (some (String.ofList value))
  | '-' :: c :: body => .letters (c :: body)
  | _ => .plain text

/-- What a group of letters comes to. -/
inductive Letters where
  /-- All letters have been read. -/
  | done (settings : Settings)
  /-- The last letter waits for its value. -/
  | waiting (settings : Settings) (setting : Setting)
  | help
  | mistake
deriving DecidableEq, Repr

/-- Reads the letters behind one hyphen. What follows the letter of an option with a value is that
value; an equals sign before it is left out. -/
def readLetters (settings : Settings) : List Char → Letters
  | [] => .done settings
  | letter :: rest =>
    if letter = 'h' then .help
    else
      match Switch.ofLetter? letter, Setting.ofLetter? letter with
      | some switch, _ =>
        match settings.turnOn? switch with
        | some changed => readLetters changed rest
        | none => .mistake
      | none, some setting =>
        let attached : Option (List Char) :=
          match rest with
          | [] => none
          | '=' :: value => some value
          | value => some value
        match attached with
        | none => .waiting settings setting
        | some value =>
          match settings.set? setting (String.ofList value) with
          | some changed => .done changed
          | none => .mistake
      | none, none => .mistake

/-- Reads file names only. -/
def readNames (settings : Settings) : List String → Request
  | [] => .run settings
  | path :: rest =>
    match settings.setInput? path with
    | some changed => readNames changed rest
    | none => .mistake

/-- Whether an argument can be the value of the option before it. -/
def isValue (text : String) : Bool :=
  match Argument.ofString text with
  | .plain _ => true
  | _ => false

/-- Reads arguments. -/
def readArgs (settings : Settings) : List String → Request
  | [] => .run settings
  | argument :: rest =>
    match Argument.ofString argument with
    | .divider => readNames settings rest
    | .plain path =>
      match settings.setInput? path with
      | some changed => readArgs changed rest
      | none => .mistake
    | .letters text =>
      match readLetters settings text with
      | .done changed => readArgs changed rest
      | .help => .help
      | .mistake => .mistake
      | .waiting changed setting =>
        match rest with
        | [] => .mistake
        | value :: others =>
          if isValue value then
            match changed.set? setting value with
            | some complete => readArgs complete others
            | none => .mistake
          else .mistake
    | .long name none =>
      if name = "help" then .help
      else
        match Switch.ofLong? name, Setting.ofLong? name with
        | some switch, _ =>
          match settings.turnOn? switch with
          | some changed => readArgs changed rest
          | none => .mistake
        | none, some setting =>
          match rest with
          | [] => .mistake
          | value :: others =>
            if isValue value then
              match settings.set? setting value with
              | some changed => readArgs changed others
              | none => .mistake
            else .mistake
        | none, none => .mistake
    | .long name (some value) =>
      match Setting.ofLong? name with
      | some setting =>
        match settings.set? setting value with
        | some changed => readArgs changed rest
        | none => .mistake
      | none => .mistake

/-- The meaning of a command line. -/
def Request.ofArgs (args : List String) : Request :=
  readArgs .empty args

end Varsheet.Command
