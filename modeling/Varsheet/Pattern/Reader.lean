import Varsheet.Pattern.Bracket
import Varsheet.Pattern.Group

/-!
# Well-formed patterns

Whether a text can be read as a pattern: groups and classes are closed, every repetition has something to
repeat, every escape is known, and nothing is nested too deeply. What a pattern matches is not looked at.

* `Level` : the part of a pattern inside of one group
* `depth?` : how deep the parts of a pattern stand in each other
* `isPattern` : the texts that are patterns
-/

namespace Varsheet

namespace Pattern

/-- What has been read of a group, or of the whole pattern. -/
structure Level where
  mode : Mode
  /-- How deep the choices before the current one are. -/
  choices : Option Nat := none
  /-- The parts of the current choice. -/
  parts : Row := {}
  /-- How deep the last part is, if it can be repeated. -/
  last : Option Nat := none
deriving DecidableEq, Repr

namespace Level

/-- How deep a level is. Several choices make it one deeper. -/
def depth (level : Level) : Nat :=
  match level.choices with
  | none => level.parts.depth
  | some choices => max choices level.parts.depth + 1

/-- A level with one part more. -/
def add (level : Level) (depth : Nat) : Level :=
  { level with parts := level.parts.add depth, last := some depth }

/-- A level with a change of its mode, which is a part that cannot be repeated. -/
def change (level : Level) (mode : Mode) : Level :=
  { level with mode, parts := level.parts.add 0, last := none }

/-- A level whose last part is repeated. -/
def repeat? (level : Level) : Option Level :=
  level.last.map fun depth =>
    { level with
      parts := { level.parts with deepest := max level.parts.deepest (depth + 1) }
      last := some (depth + 1) }

/-- A level at the start of its next choice. -/
def choose (level : Level) : Level :=
  { mode := level.mode, choices := some (max (level.choices.getD 0) level.parts.depth) }

end Level

/-- A question mark after a repetition is part of it. -/
def skipLazy : List Char → List Char
  | '?' :: rest => rest
  | rest => rest

theorem length_skipLazy_le (text : List Char) : (skipLazy text).length ≤ text.length := by
  unfold skipLazy
  split
  · exact Nat.le_succ _
  · exact Nat.le_refl _

/-- The depth of a pattern of which the rest is given. It stands inside of the `outer` levels, and
`names` are taken. A count in braces never ends here, so that an open brace is a mistake. Among bytes,
the point would stand for parts of characters and is refused. -/
def depthFrom? (names : List (List Char)) (outer : List Level) (level : Level) (text : List Char) :
    Option Nat :=
  match hskip : level.mode.skip text with
  | [] => if outer.isEmpty then some level.depth else none
  | '(' :: inner =>
    have := Mode.length_lt_of_skip hskip
    match hopening : takeOpening? level.mode inner with
    | none => none
    | some (.change mode, rest) =>
      have := length_takeOpening?_le hopening
      depthFrom? names outer (level.change mode) rest
    | some (.group mode none, rest) =>
      have := length_takeOpening?_le hopening
      depthFrom? names (level :: outer) { mode } rest
    | some (.group mode (some name), rest) =>
      have := length_takeOpening?_le hopening
      if names.contains name then none
      else depthFrom? (name :: names) (level :: outer) { mode } rest
  | ')' :: rest =>
    have := Mode.length_lt_of_skip hskip
    match outer with
    | [] => none
    | up :: further => depthFrom? names further (up.add (level.depth + 1)) rest
  | '|' :: rest =>
    have := Mode.length_lt_of_skip hskip
    depthFrom? names outer level.choose rest
  | '[' :: inner =>
    have := Mode.length_lt_of_skip hskip
    match hclass : takeClass? level.mode inner with
    | none => none
    | some (depth, rest) =>
      have := length_takeClass? hclass
      depthFrom? names outer (level.add depth) rest
  | '\\' :: inner =>
    have := Mode.length_lt_of_skip hskip
    match hescape : takeEscape? level.mode inner with
    | none => none
    | some (_, rest) =>
      have := length_takeEscape? hescape
      depthFrom? names outer (level.add 0) rest
  | '\x7b' :: _ => none
  | c :: rest =>
    have := Mode.length_lt_of_skip hskip
    if c = '*' ∨ c = '+' ∨ c = '?' then
      match level.repeat? with
      | none => none
      | some level =>
        have := length_skipLazy_le rest
        depthFrom? names outer level (skipLazy rest)
    else if c = '.' ∧ ¬ level.mode.unicode then none
    else depthFrom? names outer (level.add 0) rest
termination_by text.length

/-- How deep the parts of a pattern stand in each other. There is no depth where a text is no pattern. -/
def depth? (text : List Char) : Option Nat :=
  depthFrom? [] [] { mode := Mode.initial } text

/-- How deep the parts of a pattern may stand in each other. -/
def deepest : Nat := 250

end Pattern

/-- Whether a text is a pattern. -/
def isPattern (text : List Char) : Bool :=
  (Pattern.depth? text).any (· ≤ Pattern.deepest)

end Varsheet
