import Varsheet.Text.Lines

/-!
# Paths

A path is a text that slashes divide into pieces. A piece that is empty or a single dot leads nowhere.

* `Path.pieces`, `Path.leadsNowhere` : the pieces of a path
* `Path.expandHome` : a leading `~` stands for the home directory
-/

namespace Varsheet.Path

/-- The texts between the slashes of a path. -/
def pieces (path : List Char) : List (List Char) :=
  Text.splitAt '/' path

/-- Whether a piece of a path makes no step. -/
def leadsNowhere (piece : List Char) : Bool :=
  piece = [] || piece = ['.']

/-- The pieces of a path from the first to the last one that makes a step. -/
def core (pieces : List (List Char)) : List (List Char) :=
  ((pieces.dropWhile leadsNowhere).reverse.dropWhile leadsNowhere).reverse

/-- A path inside a directory. The slash between them is not written twice. -/
def join (directory : List Char) (inner : List Char) : List Char :=
  match directory.getLast? with
  | none | some '/' => directory ++ inner
  | some _ => directory ++ '/' :: inner

/-- What follows a first piece that is exactly `~`. -/
def belowHome? (path : List Char) : Option (List Char) :=
  match path with
  | ['~'] => some []
  | '~' :: '/' :: rest => some (List.intercalate ['/'] (core (pieces rest)))
  | _ => none

/-- The path with the home directory in the place of a first piece `~`. What follows loses the pieces
at either end that make no step, and no others. Any other path stays as it is. -/
def expandHome (home : String) (path : String) : String :=
  match belowHome? path.toList with
  | some inner => String.ofList (join home.toList inner)
  | none => path

end Varsheet.Path
