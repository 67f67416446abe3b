import Varsheet.Text.Alphabetic
import Varsheet.Text.Numeric

/-!
# Letters and digits

* `isAlphanumeric` : the letters and the digits of all scripts
-/

namespace Varsheet.Text

/-- Whether a character is a letter, a digit or another number of any script. -/
def isAlphanumeric (c : Char) : Bool :=
  isAlphabetic c || isNumeric c

end Varsheet.Text
