import Varsheet.Text.Unprintable

/-!
# Quoted texts

A text in double quotes, in which everything that could not be seen is escaped.

* `quoteChar` : a character as it stands between the quotes
* `quote` : a whole text
-/

namespace Varsheet.Text

/-- A character by its code point, in hexadecimal. -/
def codePoint (c : Char) : String :=
  "\\u\x7b" ++ String.ofList (Nat.toDigits 16 c.toNat) ++ "\x7d"

/-- A character as it stands between the quotes. -/
def quoteChar (c : Char) : String :=
  match c with
  | '\x00' => "\\0"
  | '\t' => "\\t"
  | '\n' => "\\n"
  | '\r' => "\\r"
  | '"' => "\\\""
  | '\\' => "\\\\"
  | _ => if isUnprintable c then codePoint c else String.singleton c

/-- A text in double quotes. -/
def quote (text : String) : String :=
  "\"" ++ String.join (text.toList.map quoteChar) ++ "\""

end Varsheet.Text
