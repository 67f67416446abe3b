import Varsheet.Pattern.Mode
import Varsheet.Text.Hexadecimal

/-!
# Symbols of patterns

What stands in a pattern for a single character, for one of several or for a place between two.

* `Symbol` : the three kinds
* `takeEscape?` : the symbol that a backslash introduces
-/

namespace Varsheet.Pattern

/-- The least parts of a pattern. -/
inductive Symbol where
  /-- One character. -/
  | char (c : Char)
  /-- Any character of a class that has a name. -/
  | anyOf
  /-- A place, such as an end of the text or of a word. -/
  | place
deriving DecidableEq, Repr

/-- A number of hexadecimal digits, added to the value of those before them. -/
def takeDigits? (mode : Mode) : Nat → Nat → List Char → Option (Nat × List Char)
  | 0, value, text => some (value, text)
  | count + 1, value, text =>
    match mode.skip text with
    | [] => none
    | c :: rest =>
      match Text.hexValue? c with
      | some digit => takeDigits? mode count (value * 16 + digit) rest
      | none => none

theorem length_takeDigits?_le {mode : Mode} {count value found : Nat} {text rest : List Char}
    (h : takeDigits? mode count value text = some (found, rest)) : rest.length ≤ text.length := by
  induction count generalizing value text with
  | zero =>
    simp only [takeDigits?, Option.some.injEq, Prod.mk.injEq] at h
    exact Nat.le_of_eq (congrArg List.length h.2.symm)
  | succ count ih =>
    simp only [takeDigits?] at h
    split at h
    · simp at h
    · rename_i c after hskip
      have := Mode.length_lt_of_skip hskip
      split at h
      · have := ih h
        omega
      · simp at h

/-- The character with the code that some hexadecimal digits name. -/
def takeCoded? (mode : Mode) (count : Nat) (text : List Char) : Option (Symbol × List Char) :=
  match takeDigits? mode count 0 text with
  | some (code, rest) => if code.isValidChar then some (.char (Char.ofNat code), rest) else none
  | none => none

theorem length_takeCoded?_le {mode : Mode} {count : Nat} {text rest : List Char} {symbol : Symbol}
    (h : takeCoded? mode count text = some (symbol, rest)) : rest.length ≤ text.length := by
  unfold takeCoded? at h
  split at h
  · rename_i hdigits
    split at h
    · simp only [Option.some.injEq, Prod.mk.injEq] at h
      have := length_takeDigits?_le hdigits
      rw [← h.2]
      exact this
    · simp at h
  · simp at h

/-- The one-letter names of the general categories, in either case. -/
def isCategory (c : Char) : Bool :=
  ['c', 'l', 'm', 'n', 'p', 's', 'z'].contains c.toLower

/-- A general category by its one-letter name. There are none among bytes. -/
def takeCategory? (mode : Mode) (text : List Char) : Option (Symbol × List Char) :=
  match mode.skip text with
  | [] => none
  | c :: rest => if mode.unicode ∧ isCategory c then some (.anyOf, rest) else none

theorem length_takeCategory?_le {mode : Mode} {text rest : List Char} {symbol : Symbol}
    (h : takeCategory? mode text = some (symbol, rest)) : rest.length ≤ text.length := by
  unfold takeCategory? at h
  split at h
  · simp at h
  · rename_i hskip
    split at h
    · simp only [Option.some.injEq, Prod.mk.injEq] at h
      have := Mode.length_lt_of_skip hskip
      rw [← h.2]
      omega
    · simp at h

/-- The symbol that one character behind a backslash stands for. A class that leaves out some
characters is refused among bytes, where it would hold parts of characters; the ends of words are known
only among bytes. -/
def escaped? (mode : Mode) (c : Char) : Option Symbol :=
  if ['d', 's', 'w'].contains c then some .anyOf
  else if ['D', 'S', 'W'].contains c then if mode.unicode then some .anyOf else none
  else if ['A', 'z'].contains c then some .place
  else if ['b', 'B', '<', '>'].contains c then if mode.unicode then none else some .place
  else
    match c with
    | 'a' => some (.char '\x07')
    | 'f' => some (.char '\x0C')
    | 'n' => some (.char '\n')
    | 'r' => some (.char '\r')
    | 't' => some (.char '\t')
    | 'v' => some (.char '\x0B')
    | _ => if c.toNat < 128 ∧ ¬ c.isAlphanum then some (.char c) else none

/-- The symbol that a backslash introduces, from behind it. A code of two digits names a byte where the
pattern speaks about bytes, and has to be a whole character then. -/
def takeEscape? (mode : Mode) : List Char → Option (Symbol × List Char)
  | [] => none
  | 'x' :: rest =>
    match takeCoded? mode 2 rest with
    | some (.char c, left) => if mode.unicode ∨ c.toNat < 128 then some (.char c, left) else none
    | _ => none
  | 'u' :: rest => takeCoded? mode 4 rest
  | 'U' :: rest => takeCoded? mode 8 rest
  | 'p' :: rest => takeCategory? mode rest
  | 'P' :: rest => takeCategory? mode rest
  | c :: rest => (escaped? mode c).map fun symbol => (symbol, rest)

theorem length_takeEscape? {mode : Mode} {text rest : List Char} {symbol : Symbol}
    (h : takeEscape? mode text = some (symbol, rest)) : rest.length < text.length := by
  unfold takeEscape? at h
  split at h
  · simp at h
  · split at h
    · rename_i hcoded
      split at h
      · simp only [Option.some.injEq, Prod.mk.injEq] at h
        rw [← h.2]
        exact Nat.lt_succ_of_le (length_takeCoded?_le hcoded)
      · simp at h
    · simp at h
  · exact Nat.lt_succ_of_le (length_takeCoded?_le h)
  · exact Nat.lt_succ_of_le (length_takeCoded?_le h)
  · exact Nat.lt_succ_of_le (length_takeCategory?_le h)
  · exact Nat.lt_succ_of_le (length_takeCategory?_le h)
  · obtain ⟨_, _, h⟩ := Option.map_eq_some_iff.1 h
    simp only [Prod.mk.injEq] at h
    rw [← h.2]
    simp

end Varsheet.Pattern
