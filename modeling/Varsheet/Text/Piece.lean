/-!
# Pieces of a text

Places in a text are counted in bytes of its encoding.

* `size` : how many bytes a text takes
* `Piece` : a stretch of a text by its place and its size
* `Piece.of?` : the characters of a stretch
-/

namespace Varsheet.Text

/-- How many bytes a text takes. -/
def size : List Char → Nat
  | [] => 0
  | c :: rest => c.utf8Size + size rest

/-- A text without its first bytes. There is no such text if the last of them lies within a character or
behind the end. -/
def dropBytes? : Nat → List Char → Option (List Char)
  | 0, text => some text
  | _ + 1, [] => none
  | count + 1, c :: rest =>
    if c.utf8Size ≤ count + 1 then dropBytes? (count + 1 - c.utf8Size) rest else none

/-- The first bytes of a text. There is no such text if the last of them lies within a character or
behind the end. -/
def takeBytes? : Nat → List Char → Option (List Char)
  | 0, _ => some []
  | _ + 1, [] => none
  | count + 1, c :: rest =>
    if c.utf8Size ≤ count + 1 then
      (takeBytes? (count + 1 - c.utf8Size) rest).map (c :: ·)
    else none

/-- A stretch of a text: where it starts, and how many bytes it takes. -/
structure Piece where
  start : Nat
  size : Nat
deriving DecidableEq, Repr

/-- The characters of a text at a piece. -/
def Piece.of? (piece : Piece) (text : List Char) : Option (List Char) :=
  (dropBytes? piece.start text).bind (takeBytes? piece.size)

/-- Dropping as many bytes as the front of a text takes leaves the rest. -/
theorem dropBytes?_size (front rest : List Char) :
    dropBytes? (size front) (front ++ rest) = some rest := by
  induction front with
  | nil => simp [size, dropBytes?]
  | cons c front ih =>
    have hpos := c.utf8Size_pos
    have hsize : size (c :: front) = c.utf8Size + size front := by simp [size]
    obtain ⟨count, hcount⟩ : ∃ count, size (c :: front) = count + 1 :=
      ⟨size (c :: front) - 1, by omega⟩
    rw [hcount, List.cons_append, dropBytes?, if_pos (by omega)]
    rw [show count + 1 - c.utf8Size = size front by omega, ih]

/-- Taking as many bytes as the front of a text takes gives the front. -/
theorem takeBytes?_size (front rest : List Char) :
    takeBytes? (size front) (front ++ rest) = some front := by
  induction front with
  | nil => simp [size, takeBytes?]
  | cons c front ih =>
    have hpos := c.utf8Size_pos
    have hsize : size (c :: front) = c.utf8Size + size front := by simp [size]
    obtain ⟨count, hcount⟩ : ∃ count, size (c :: front) = count + 1 :=
      ⟨size (c :: front) - 1, by omega⟩
    rw [hcount, List.cons_append, takeBytes?, if_pos (by omega)]
    rw [show count + 1 - c.utf8Size = size front by omega, ih, Option.map_some]

end Varsheet.Text
