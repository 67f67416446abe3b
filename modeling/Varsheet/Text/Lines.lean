/-!
# Lines of a text

A text is cut into lines after its line endings have been made equal: a carriage return with the
line feed after it, and a carriage return alone, both count as one line feed.

* `joinReturns` : each carriage return, line feed pair becomes one line feed
* `unifyEndings` : all endings become line feeds
* `splitAt` : the pieces between the occurrences of a character
* `lines` : the lines of a text, of which there is always at least one
-/

namespace Varsheet.Text

/-- Every carriage return that a line feed follows is dropped. -/
def joinReturns : List Char → List Char
  | '\r' :: '\n' :: rest => '\n' :: joinReturns rest
  | c :: rest => c :: joinReturns rest
  | [] => []

/-- Every line ending is a line feed afterwards. -/
def unifyEndings (text : List Char) : List Char :=
  (joinReturns text).map fun c => if c = '\r' then '\n' else c

/-- The pieces of a text between the occurrences of `sep`. There is one piece more than there are
occurrences. -/
def splitAt (sep : Char) : List Char → List (List Char)
  | [] => [[]]
  | c :: rest =>
    if c = sep then [] :: splitAt sep rest
    else
      match splitAt sep rest with
      | [] => [[c]]
      | piece :: pieces => (c :: piece) :: pieces

/-- The lines of a text. -/
def lines (text : List Char) : List (List Char) :=
  splitAt '\n' (unifyEndings text)

theorem splitAt_ne_nil (sep : Char) (text : List Char) : splitAt sep text ≠ [] := by
  cases text with
  | nil => simp [splitAt]
  | cons c rest =>
    unfold splitAt
    split
    · simp
    · split <;> simp

/-- Even the empty text is one line. -/
theorem lines_ne_nil (text : List Char) : lines text ≠ [] :=
  splitAt_ne_nil _ _

end Varsheet.Text
