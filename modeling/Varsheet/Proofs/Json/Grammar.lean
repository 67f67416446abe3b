import Varsheet.Json.Lexeme

/-!
# How JSON is spelled

The grammar of JSON, said without any reader: which texts stand for a value. The rules follow the value, and
white space may stand around every value and every name.

An escape can name half a surrogate pair. Such halves stand for a character only two by two; what becomes of a
half on its own is left to `Halves`, as it is for the readers.

* `SpellsChars`, `SpellsNumeral` : the inside of a string, and numbers
* `Spells`, `SpellsElements`, `SpellsMembers` : values
* `IsTextOf` : a text that is one value
-/

namespace Varsheet.Json

/-! ## White space -/

/-- Nothing but white space. -/
def Blank (text : List Char) : Prop :=
  ∀ c ∈ text, isSpace c = true

/-- Something with white space on both sides of it. -/
def Spaced (inner : List Char → Prop) (text : List Char) : Prop :=
  ∃ before middle behind, text = before ++ (middle ++ behind) ∧ Blank before ∧ inner middle ∧ Blank behind

/-! ## Strings -/

/-- The letters that make an escape on their own, and what they stand for. -/
def shortEscapes : List (Char × Char) :=
  [('"', '"'), ('\\', '\\'), ('/', '/'), ('b', '\x08'), ('f', '\x0C'), ('n', '\n'), ('r', '\r'),
    ('t', '\t')]

/-- Four hexadecimal digits and the number that they stand for. -/
inductive SpellsUnit : Nat → List Char → Prop where
  | digits {a b c d : Char} {i j k l : Nat} (first : Text.hexValue? a = some i)
      (second : Text.hexValue? b = some j) (third : Text.hexValue? c = some k)
      (fourth : Text.hexValue? d = some l) :
      SpellsUnit (((i * 16 + j) * 16 + k) * 16 + l) [a, b, c, d]

/-- The first half of a surrogate pair. -/
def IsHigh (unit : Nat) : Prop :=
  0xD800 ≤ unit ∧ unit ≤ 0xDBFF

/-- The second half of a surrogate pair. -/
def IsLow (unit : Nat) : Prop :=
  0xDC00 ≤ unit ∧ unit ≤ 0xDFFF

/-- The text starts with an escape of the second half of a surrogate pair. -/
def StartsLow (text : List Char) : Prop :=
  ∃ unit digits behind, text = '\\' :: 'u' :: (digits ++ behind) ∧ SpellsUnit unit digits ∧ IsLow unit

/-- `SpellsEscape halves c escape behind`: following a backslash, `escape` stands for `c`, when `behind`
comes next. -/
inductive SpellsEscape (halves : Halves) : Char → List Char → List Char → Prop where
  | short {letter c : Char} {behind : List Char} (listed : (letter, c) ∈ shortEscapes) :
      SpellsEscape halves c [letter] behind
  /-- No character has the number of half a surrogate pair. -/
  | unit {c : Char} {digits behind : List Char} (spelled : SpellsUnit c.toNat digits) :
      SpellsEscape halves c ('u' :: digits) behind
  | pair {c : Char} {high low : Nat} {digits digits' behind : List Char}
      (first : SpellsUnit high digits) (isHigh : IsHigh high) (second : SpellsUnit low digits')
      (isLow : IsLow low) (code : c.toNat = 0x10000 + (high - 0xD800) * 0x400 + (low - 0xDC00)) :
      SpellsEscape halves c ('u' :: (digits ++ '\\' :: 'u' :: digits')) behind
  | lone {half : Nat} {digits behind : List Char} (let_pass : halves = .replaced)
      (spelled : SpellsUnit half digits) (alone : IsHigh half ∧ ¬ StartsLow behind ∨ IsLow half) :
      SpellsEscape halves '\uFFFD' ('u' :: digits) behind

/-- The characters of a string as they stand between its quotes. -/
inductive SpellsChars (halves : Halves) : List Char → List Char → Prop where
  | nil : SpellsChars halves [] []
  | plain {c : Char} {chars body : List Char} (notControl : 0x20 ≤ c.toNat) (notQuote : c ≠ '"')
      (notBackslash : c ≠ '\\') (rest : SpellsChars halves chars body) :
      SpellsChars halves (c :: chars) (c :: body)
  | escape {c : Char} {chars escape body : List Char} (first : SpellsEscape halves c escape body)
      (rest : SpellsChars halves chars body) :
      SpellsChars halves (c :: chars) ('\\' :: (escape ++ body))

def SpellsString (halves : Halves) (value : String) (text : List Char) : Prop :=
  ∃ body, text = '"' :: (body ++ ['"']) ∧ SpellsChars halves value.toList body

/-! ## Numbers -/

/-- One digit or more. -/
def IsDigits (digits : List Char) : Prop :=
  digits ≠ [] ∧ ∀ c ∈ digits, c.isDigit = true

/-- The digits before the point: a zero stands in front only if it stands alone. -/
def IsWhole (digits : List Char) : Prop :=
  IsDigits digits ∧ (digits.head? = some '0' → digits = ['0'])

def SpellsFraction : Option (List Char) → List Char → Prop
  | none, text => text = []
  | some digits, text => text = '.' :: digits ∧ IsDigits digits

/-- The sign of an exponent. A plus sign may be left out. -/
def SpellsSign : Bool → List Char → Prop
  | true, text => text = ['-']
  | false, text => text = [] ∨ text = ['+']

def SpellsExponent : Option (Bool × List Char) → List Char → Prop
  | none, text => text = []
  | some (negative, digits), text =>
    ∃ mark sign, text = mark :: (sign ++ digits) ∧ (mark = 'e' ∨ mark = 'E') ∧
      SpellsSign negative sign ∧ IsDigits digits

def SpellsNumeral (numeral : Numeral) (text : List Char) : Prop :=
  ∃ minus fraction exponent, text = minus ++ (numeral.whole ++ (fraction ++ exponent)) ∧
    minus = (if numeral.negative then ['-'] else []) ∧ IsWhole numeral.whole ∧
    SpellsFraction numeral.fraction fraction ∧ SpellsExponent numeral.exponent exponent

/-! ## Values -/

/-- A member of an object: its name, a colon, and what is allowed for its value. -/
def SpellsMember (halves : Halves) (name : String) (inner : List Char → Prop) (text : List Char) : Prop :=
  ∃ label behind, text = label ++ ':' :: behind ∧ Spaced (SpellsString halves name) label ∧
    Spaced inner behind

mutual

/-- The text, without white space around it, stands for the value. -/
def Spells : Halves → Json → List Char → Prop
  | _, .null, text => text = ['n', 'u', 'l', 'l']
  | _, .bool true, text => text = ['t', 'r', 'u', 'e']
  | _, .bool false, text => text = ['f', 'a', 'l', 's', 'e']
  | _, .number numeral, text => SpellsNumeral numeral text
  | halves, .string value, text => SpellsString halves value text
  | halves, .array elements, text =>
    ∃ body, text = '[' :: (body ++ [']']) ∧ SpellsElements halves elements body
  | halves, .object members, text =>
    ∃ body, text = '\x7b' :: (body ++ ['\x7d']) ∧ SpellsMembers halves (fun _ => halves) members body

/-- What stands between the brackets of an array. -/
def SpellsElements : Halves → List Json → List Char → Prop
  | _, [], text => Blank text
  | halves, [element], text => Spaced (Spells halves element) text
  | halves, element :: next :: rest, text =>
    ∃ first behind, text = first ++ ',' :: behind ∧ Spaced (Spells halves element) first ∧
      SpellsElements halves (next :: rest) behind

/-- What stands between the braces of an object. Half a pair in a value is treated as `mode` says for the name
of the value. -/
def SpellsMembers : Halves → (String → Halves) → List (String × Json) → List Char → Prop
  | _, _, [], text => Blank text
  | names, mode, [(name, value)], text => SpellsMember names name (Spells (mode name) value) text
  | names, mode, (name, value) :: next :: rest, text =>
    ∃ first behind, text = first ++ ',' :: behind ∧
      SpellsMember names name (Spells (mode name) value) first ∧
      SpellsMembers names mode (next :: rest) behind

end

/-- The text is the value, with nothing but white space around it. Half a surrogate pair stands for
nothing. -/
def IsTextOf (value : Json) (text : String) : Prop :=
  Spaced (Spells .refused value) text.toList

end Varsheet.Json
