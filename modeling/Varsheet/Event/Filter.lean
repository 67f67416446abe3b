import Varsheet.Event.Basic
import Varsheet.Pattern.Reader
import Varsheet.Text.Alphanumeric
import Varsheet.Text.Blank
import Varsheet.Text.Lines
import Varsheet.Text.Piece

/-!
# Choosing events

A filter is a list of rules divided by commas. A rule names an origin, a severity or both, and may ask
for more in brackets: `origin[span{field}]=severity`.

* `Condition`, `Directive` : a rule
* `Directive.parse?` : a rule from its text
* `Filter`, `Filter.parse?` : all rules of a text
* `Filter.admits` : whether an event is shown
-/

namespace Varsheet

/-- What a rule asks of an event besides its origin. -/
inductive Condition where
  | any
  /-- The event has a part of that name. -/
  | hasField (name : String)
  /-- Something that no event of a compilation has, such as a surrounding span or a given value of
  a part. -/
  | unmet
deriving DecidableEq, Repr

/-- Whether events meet a condition. -/
def Condition.isMet : Condition → Bool
  | .any => true
  | .hasField name => Event.fields.contains name
  | .unmet => false

/-- A rule that lets events through: those whose origin starts with the given text (all of them if
none is given) and that meet the condition, from a severity on. Without a severity no event passes. -/
structure Directive where
  origin : Option String
  condition : Condition
  threshold : Option Severity
deriving DecidableEq, Repr

/-! ## Reading rules -/

/-- The number that digits stand for, after a plus sign or without one. -/
def plainNumber? (word : List Char) : Option Nat :=
  let digits :=
    match word with
    | '+' :: rest => rest
    | _ => word
  if digits ≠ [] ∧ digits.all Char.isDigit then
    some (digits.foldl (fun value digit => value * 10 + (digit.toNat - 48)) 0)
  else none

namespace Directive

/-- The severity that a word stands for: its name in any case, or a number from five, for the most
detailed events, down to zero, for none. -/
def threshold? (word : List Char) : Option (Option Severity) :=
  match plainNumber? word with
  | some 0 => some none
  | some 1 => some (some .error)
  | some 2 => some (some .warn)
  | some 3 => some (some .info)
  | some 4 => some (some .debug)
  | some 5 => some (some .trace)
  | some _ => none
  | none =>
    match String.ofList (word.map Char.toLower) with
    | "trace" => some (some .trace)
    | "debug" => some (some .debug)
    | "info" => some (some .info)
    | "warn" => some (some .warn)
    | "error" => some (some .error)
    | "off" => some none
    | _ => none

/-- The severity after an equals sign. Nothing stands for the most detailed events. -/
def severity? (word : List Char) : Option (Option Severity) :=
  if word = [] then some (some .trace) else threshold? word

/-- Characters that an origin can start with. -/
def startsOrigin (c : Char) : Bool :=
  c == '-' || c == ':' || c == '_' || Text.isAlphanumeric c

/-- Whether a text is a decimal number with a plus sign. -/
def isPositive (text : List Char) : Bool :=
  match text with
  | '+' :: number =>
    let mantissa := number.takeWhile fun c => c ≠ 'e' ∧ c ≠ 'E'
    let whole := mantissa.takeWhile (· ≠ '.')
    let fraction := (mantissa.dropWhile (· ≠ '.')).drop 1
    let word := String.ofList (number.map Char.toLower)
    word = "inf" || word = "infinity" || word = "nan" ||
      ((whole ++ fraction ≠ []) && (whole ++ fraction).all Char.isDigit &&
        (match number.dropWhile fun c => c ≠ 'e' ∧ c ≠ 'E' with
          | [] => true
          | _ :: '-' :: digits => digits ≠ [] && digits.all Char.isDigit
          | _ :: digits => (plainNumber? digits).isSome))
  | _ => false

/-- What a rule asks for by the text between its braces: a part by its name, or with a value, which
has to be a number or a pattern. -/
def fieldCondition? (field : List Char) : Option Condition :=
  match field.dropWhile (· ≠ '=') with
  | [] => if field = [] then none else some (.hasField (String.ofList field))
  | _ :: rest =>
    let value := rest.takeWhile (· ≠ '=')
    if isPositive value || isPattern value then some .unmet else none

/-! ### Parts of a rule

A rule is divided without the white space around it, but its parts are taken at the same places of the
whole rule. So white space before a rule moves them, and white space behind it belongs to the last. -/

/-- Where the brackets of a rule name a span and a part of the event. -/
structure Brackets where
  span : Text.Piece
  field : Option Text.Piece

/-- Where the parts of a rule are. -/
structure Parts where
  origin : Option Text.Piece
  brackets : Option Brackets
  /-- Where the severity starts. -/
  severity : Option Nat

/-- The brackets of a rule from behind the opening one, which ends at `start`, with the place behind
them and what follows there. -/
def takeBrackets? (start : Nat) (text : List Char) : Option (Brackets × Nat × List Char) :=
  let stops := fun c => c = ']' ∨ c = '\x7b'
  let span : Text.Piece := ⟨start, Text.size (text.takeWhile fun c => ¬ stops c)⟩
  match text.dropWhile fun c => ¬ stops c with
  | ']' :: rest => some (⟨span, none⟩, start + span.size + 1, rest)
  | '\x7b' :: inner =>
    let field : Text.Piece := ⟨start + span.size + 1, Text.size (inner.takeWhile (· ≠ '\x7d'))⟩
    match inner.dropWhile (· ≠ '\x7d') with
    | '\x7d' :: ']' :: rest => some (⟨span, some field⟩, field.start + field.size + 2, rest)
    | _ => none
  | _ => none

/-- What may follow the brackets of a rule, or its origin, at a place. -/
def Parts.close? (origin : Option Text.Piece) (brackets : Option Brackets) (place : Nat) :
    List Char → Option Parts
  | [] => some ⟨origin, brackets, none⟩
  | '=' :: _ => some ⟨origin, brackets, some (place + 1)⟩
  | _ => none

/-- Divides a rule. -/
def Parts.parse? (text : List Char) : Option Parts :=
  let stops := fun c => c = '=' ∨ c = '['
  match text with
  | [] => none
  | '[' :: inner => do
    let (brackets, place, rest) ← takeBrackets? 1 inner
    close? none (some brackets) place rest
  | first :: _ =>
    if startsOrigin first then
      let origin : Text.Piece := ⟨0, Text.size (text.takeWhile fun c => ¬ stops c)⟩
      match text.dropWhile fun c => ¬ stops c with
      | '[' :: inner => do
        let (brackets, place, rest) ← takeBrackets? (origin.size + 1) inner
        close? (some origin) (some brackets) place rest
      | rest => close? (some origin) none origin.size rest
    else none

/-- What the brackets of a rule ask for. -/
def Brackets.condition? (brackets : Brackets) (rule : List Char) : Option Condition :=
  match brackets.field with
  | none => some .unmet
  | some field => do
    let condition ← fieldCondition? (← field.of? rule)
    return if brackets.span.size = 0 then condition else .unmet

/-- Reads a rule. A word alone is a severity, or else an origin of which everything is let through. -/
def parse? (rule : List Char) : Option Directive := do
  let parts ← Parts.parse? (Text.trim rule)
  match parts.brackets, parts.severity with
  | none, none =>
    match threshold? rule with
    | some threshold => return ⟨none, .any, threshold⟩
    | none => return ⟨some (String.ofList rule), .any, some .trace⟩
  | brackets, severity =>
    let origin ← parts.origin.mapM fun piece => piece.of? rule
    let condition ← (brackets.map fun found => found.condition? rule).getD (some .any)
    let word ← (severity.map fun start => Text.dropBytes? start rule).getD (some [])
    let threshold ← severity? word
    return ⟨origin.map String.ofList, condition, threshold⟩

/-! ## Applying rules -/

/-- Whether a rule speaks about an event. -/
def covers (directive : Directive) (event : Event) : Bool :=
  directive.condition.isMet &&
    match directive.origin with
    | none => true
    | some text => text.toList.isPrefixOf event.origin.toList

/-- How closely a rule names its origin. -/
def precision (directive : Directive) : Nat :=
  match directive.origin with
  | none => 0
  | some text => text.utf8ByteSize + 1

/-- The part that a rule asks for. Rules that ask for none come first. -/
def fieldKey (directive : Directive) : List String :=
  match directive.condition with
  | .hasField name => [name]
  | _ => []

/-- Whether the second of two rules that speak about an event goes before the first: it names the
origin more closely, or as closely and asks for more. A rule also goes before an earlier one like it. -/
def yields (earlier later : Directive) : Bool :=
  earlier.precision < later.precision ||
    (earlier.precision == later.precision && !(later.fieldKey < earlier.fieldKey))

end Directive

/-- A list of rules, of which the most precise one decides. -/
abbrev Filter := List Directive

namespace Filter

/-- Everything from a severity on, whatever its origin. -/
def atLeast (severity : Severity) : Filter :=
  [⟨none, .any, some severity⟩]

/-- Reads rules that are divided by commas. Nothing at all stands for errors only; one rule that
cannot be read spoils the list. -/
def parse? (text : String) : Option Filter :=
  match (Text.splitAt ',' text.toList).filter (fun piece => !piece.isEmpty) with
  | [] => some (Filter.atLeast .error)
  | found => found.mapM Directive.parse?

/-- Of two rules the one that goes before the other. -/
def prevailing (best : Option Directive) (directive : Directive) : Option Directive :=
  match best with
  | none => some directive
  | some other => if other.yields directive then some directive else best

/-- The rule that decides about an event: of those that speak about it, the one that goes before the
others. -/
def deciding (filter : Filter) (event : Event) : Option Directive :=
  (filter.filter (·.covers event)).foldl prevailing none

/-- Whether an event is shown. -/
def admits (filter : Filter) (event : Event) : Bool :=
  match filter.deciding event with
  | some ⟨_, _, some threshold⟩ => threshold.rank ≤ event.severity.rank
  | _ => false

end Filter

end Varsheet
