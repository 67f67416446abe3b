/-!
# JSON values

* `Numeral` : a number as it is written
* `Json` : a value; the members of an object keep their order and may repeat
-/

namespace Varsheet

/-- A number as it is written, in decimal digits. -/
structure Numeral where
  negative : Bool
  /-- The digits before the point. -/
  whole : List Char
  /-- The digits after the point, if there is one. -/
  fraction : Option (List Char)
  /-- The exponent, if there is one: whether it is negative, and its digits. -/
  exponent : Option (Bool × List Char)
deriving DecidableEq, Repr

/-- A JSON value. -/
inductive Json where
  | null
  | bool (value : Bool)
  | number (value : Numeral)
  | string (value : String)
  | array (elements : List Json)
  | object (members : List (String × Json))
deriving Inhabited

end Varsheet
