/-!
# Blank characters

The characters that count as blank in a sheet, and cutting them off both ends of a text.

* `isBlank` : the characters with the Unicode property White_Space
* `trim` : a text without its leading and trailing blanks
-/

namespace Varsheet.Text

/-- A blank character: one with the Unicode property White_Space. Separators that only look
empty, such as U+200B or U+FEFF, are not blank. -/
def isBlank (c : Char) : Bool :=
  let code := c.toNat
  (9 ≤ code && code ≤ 13) || code == 0x20 || code == 0x85 || code == 0xA0 || code == 0x1680 ||
    (0x2000 ≤ code && code ≤ 0x200A) || code == 0x2028 || code == 0x2029 || code == 0x202F ||
    code == 0x205F || code == 0x3000

/-- A text without the blanks it starts with. -/
def trimLeft (text : List Char) : List Char :=
  text.dropWhile isBlank

/-- A text without the blanks it ends with. -/
def trimRight (text : List Char) : List Char :=
  (text.reverse.dropWhile isBlank).reverse

/-- A text without the blanks at either end. -/
def trim (text : List Char) : List Char :=
  trimRight (trimLeft text)

/-- Every character that the core library takes for white space is blank. -/
theorem isBlank_of_isWhitespace {c : Char} (h : c.isWhitespace = true) : isBlank c = true := by
  simp only [Char.isWhitespace, Bool.or_eq_true, decide_eq_true_eq] at h
  rcases h with ((h | h) | h) | h <;> subst h <;> rfl

@[simp] theorem trim_nil : trim [] = [] := rfl

end Varsheet.Text
