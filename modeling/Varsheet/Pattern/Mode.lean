import Varsheet.Text.Blank

/-!
# Modes of patterns

How the text of a pattern is read at some place in it. A pattern can change its mode as it goes.

* `Mode` : whether white space is passed over, and which characters a pattern speaks about
* `Mode.skip` : the white space and comments that a mode passes over
* `Mode.change?` : a mode after the letters that change it
-/

namespace Varsheet.Pattern

/-- How a place in a pattern is read. -/
structure Mode where
  /-- White space is passed over, and a number sign starts a comment that ends with the line. -/
  freeSpacing : Bool
  /-- The pattern speaks about the characters of all scripts, and not about bytes. -/
  unicode : Bool
deriving DecidableEq, Repr

namespace Mode

/-- The mode that a pattern starts in. -/
def initial : Mode := ⟨false, true⟩

/-! ## White space -/

/-- A text without the white space and the comments it starts with. `comment` tells whether a comment is
open. -/
def skipSpacing (comment : Bool) : List Char → List Char
  | [] => []
  | c :: rest =>
    if comment then skipSpacing (c ≠ '\n') rest
    else if c = '#' then skipSpacing true rest
    else if Text.isBlank c then skipSpacing false rest
    else c :: rest

theorem length_skipSpacing_le (comment : Bool) (text : List Char) :
    (skipSpacing comment text).length ≤ text.length := by
  induction text generalizing comment with
  | nil => simp [skipSpacing]
  | cons c rest ih =>
    have := ih (c ≠ '\n')
    have := ih true
    have := ih false
    simp only [skipSpacing, List.length_cons]
    split
    · omega
    · split
      · omega
      · split
        · omega
        · simp

/-- A text from the first character that a mode does not pass over. -/
def skip (mode : Mode) (text : List Char) : List Char :=
  if mode.freeSpacing then skipSpacing false text else text

theorem length_skip_le (mode : Mode) (text : List Char) :
    (mode.skip text).length ≤ text.length := by
  unfold skip
  split
  · exact length_skipSpacing_le false text
  · exact Nat.le_refl _

theorem length_le_of_skip {mode : Mode} {text rest : List Char} (h : mode.skip text = rest) :
    rest.length ≤ text.length :=
  h ▸ length_skip_le mode text

/-- What follows the first character that is not passed over is shorter than the whole text. -/
theorem length_lt_of_skip {mode : Mode} {text rest : List Char} {c : Char}
    (h : mode.skip text = c :: rest) : rest.length < text.length := by
  have := length_skip_le mode text
  rw [h, List.length_cons] at this
  omega

/-- The character that comes next past white space. It can be the first one of a comment, for a
comment is not passed over, only its mark. Where nothing but white space follows, it is the white
space itself. -/
def next? (mode : Mode) (text : List Char) : Option Char :=
  if mode.freeSpacing then
    match text.dropWhile Text.isBlank with
    | [] => text.head?
    | '#' :: comment => (comment.dropWhile Text.isBlank).head?.or text.head?
    | c :: _ => some c
  else text.head?

/-! ## Changes -/

/-- The letters that stand for parts of a mode: case, lines, the point, greed, Unicode, line ends and
spacing. -/
def letters : List Char :=
  ['i', 'm', 's', 'U', 'u', 'R', 'x']

/-- Whether a part of a mode is in force after a change. Letters before the minus sign turn theirs on,
letters behind it turn theirs off. -/
def after (change : List Char) (letter : Char) (before : Bool) : Bool :=
  (before || (change.takeWhile (· ≠ '-')).contains letter) &&
    !(change.dropWhile (· ≠ '-')).contains letter

/-- A mode after a change. Every letter stands in it at most once, and so does the minus sign, which has
to have letters behind it. -/
def change? (mode : Mode) (change : List Char) : Option Mode :=
  if change.all (fun c => c = '-' ∨ c ∈ letters) ∧ change.Nodup ∧ change.getLast? ≠ some '-' then
    some ⟨after change 'x' mode.freeSpacing, after change 'u' mode.unicode⟩
  else none

end Mode

end Varsheet.Pattern
