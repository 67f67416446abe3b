import Varsheet.Json.Basic
import Varsheet.Tree.Basic

/-!
# Trees as JSON

A tree is written as an object over several lines, two spaces further in for each level. Texts are
written as strings, also those that look like numbers.

* `JsonText.escapeChar`, `JsonText.string` : strings
* `JsonText.render` : a whole tree
* `Tree.toJson` : the JSON value that is written
-/

namespace Varsheet

mutual

/-- The JSON value of a value: a string or an object. -/
def Value.toJson : Value → Json
  | .scalar text => .string text
  | .group entries => .object (Tree.toMembers entries)

/-- The members of the object of a tree. -/
def Tree.toMembers : List (String × Value) → List (String × Json)
  | [] => []
  | (key, value) :: rest => (key, value.toJson) :: Tree.toMembers rest

end

/-- The JSON value of a tree. -/
def Tree.toJson (tree : Tree) : Json :=
  .object (Tree.toMembers tree)

namespace JsonText

/-- A hexadecimal digit. -/
def hexDigit (n : Nat) : Char :=
  Nat.digitChar n

/-- A character as it stands in a string. Only quotes, backslashes and control characters are
escaped. -/
def escapeChar (c : Char) : List Char :=
  match c with
  | '"' => ['\\', '"']
  | '\\' => ['\\', '\\']
  | '\x08' => ['\\', 'b']
  | '\x0C' => ['\\', 'f']
  | '\n' => ['\\', 'n']
  | '\r' => ['\\', 'r']
  | '\t' => ['\\', 't']
  | _ =>
    if c.toNat < 0x20 then ['\\', 'u', '0', '0', hexDigit (c.toNat / 16), hexDigit (c.toNat % 16)]
    else [c]

/-- A text as a string. -/
def string (text : String) : String :=
  "\"" ++ String.ofList (text.toList.flatMap escapeChar) ++ "\""

/-- The white space in front of a line. -/
def indent (level : Nat) : String :=
  String.ofList (List.replicate (2 * level) ' ')

/-- Members in the braces of an object whose closing brace stands at `level`. -/
def braces (level : Nat) (members : List String) : String :=
  if members.isEmpty then "\x7b\x7d"
  else
    "\x7b\n" ++ indent (level + 1) ++ String.intercalate (",\n" ++ indent (level + 1)) members ++
      "\n" ++ indent level ++ "\x7d"

mutual

/-- A value; the closing brace of a group stands at `level`. -/
def value (level : Nat) : Value → String
  | .scalar text => string text
  | .group entries => braces level (members (level + 1) entries)

/-- Each entry as a member of an object. -/
def members (level : Nat) : List (String × Value) → List String
  | [] => []
  | (key, content) :: rest => (string key ++ ": " ++ value level content) :: members level rest

end

/-- A tree as a JSON text. -/
def render (tree : Tree) : String :=
  braces 0 (members 1 tree)

end JsonText

end Varsheet
