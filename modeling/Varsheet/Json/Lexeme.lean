import Varsheet.Json.Basic
import Varsheet.Text.Hexadecimal

/-!
# Lexemes of JSON

The pieces that JSON texts are made of. Each function takes its piece off the front of a text and gives
what it stands for together with what is left.

* `skipBlank` : white space
* `Halves` : what becomes of half a surrogate pair
* `takeChars?` : the rest of a string, from behind its opening quote
* `takeNumeral?` : a number
* `takeWord?` : `null`, `true` and `false`
-/

namespace Varsheet.Json

/-! ## White space -/

/-- The four white space characters of JSON. -/
def isSpace (c : Char) : Bool :=
  c = ' ' || c = '\t' || c = '\n' || c = '\r'

/-- A text from its first character that is not white space. -/
def skipBlank (text : List Char) : List Char :=
  text.dropWhile isSpace

theorem length_skipBlank_le (text : List Char) : (skipBlank text).length ≤ text.length := by
  induction text with
  | nil => simp [skipBlank]
  | cons c rest ih =>
    simp only [skipBlank] at ih
    simp only [skipBlank, List.dropWhile_cons]
    split
    · simp only [List.length_cons]
      omega
    · simp

/-- What follows the first character that is not white space is shorter than the whole text. -/
theorem length_lt_of_skipBlank {text rest : List Char} {c : Char}
    (h : skipBlank text = c :: rest) : rest.length < text.length := by
  have := length_skipBlank_le text
  rw [h, List.length_cons] at this
  omega

/-! ## Strings -/

/-- What becomes of an escape that names half a surrogate pair and has no other half beside it. -/
inductive Halves where
  /-- It is a mistake. -/
  | refused
  /-- It is read as the replacement character. -/
  | replaced
deriving DecidableEq, Repr

/-- Four hexadecimal digits. -/
def takeUnit? : List Char → Option (Nat × List Char)
  | a :: b :: c :: d :: rest => do
    let a ← Text.hexValue? a
    let b ← Text.hexValue? b
    let c ← Text.hexValue? c
    let d ← Text.hexValue? d
    return (((a * 16 + b) * 16 + c) * 16 + d, rest)
  | _ => none

/-- An escape that names the second half of a surrogate pair. -/
def takeLowHalf? : List Char → Option (Nat × List Char)
  | '\\' :: 'u' :: text =>
    match takeUnit? text with
    | some (unit, rest) => if 0xDC00 ≤ unit ∧ unit ≤ 0xDFFF then some (unit, rest) else none
    | none => none
  | _ => none

/-- The character of a surrogate pair. -/
def ofHalves (high low : Nat) : Char :=
  Char.ofNat (0x10000 + (high - 0xD800) * 0x400 + (low - 0xDC00))

/-- Half a pair on its own, with what follows it. -/
def Halves.lone (halves : Halves) (rest : List Char) : Option (Char × List Char) :=
  match halves with
  | .refused => none
  | .replaced => some ('\uFFFD', rest)

/-- The character that an escape stands for, from behind its backslash. -/
def takeEscape? (halves : Halves) : List Char → Option (Char × List Char)
  | '"' :: rest => some ('"', rest)
  | '\\' :: rest => some ('\\', rest)
  | '/' :: rest => some ('/', rest)
  | 'b' :: rest => some ('\x08', rest)
  | 'f' :: rest => some ('\x0C', rest)
  | 'n' :: rest => some ('\n', rest)
  | 'r' :: rest => some ('\r', rest)
  | 't' :: rest => some ('\t', rest)
  | 'u' :: text =>
    match takeUnit? text with
    | none => none
    | some (unit, rest) =>
      if 0xD800 ≤ unit ∧ unit ≤ 0xDBFF then
        match takeLowHalf? rest with
        | some (low, left) => some (ofHalves unit low, left)
        | none => halves.lone rest
      else if 0xDC00 ≤ unit ∧ unit ≤ 0xDFFF then halves.lone rest
      else some (Char.ofNat unit, rest)
  | _ => none

theorem length_takeUnit? {text rest : List Char} {unit : Nat}
    (h : takeUnit? text = some (unit, rest)) : rest.length < text.length := by
  unfold takeUnit? at h
  split at h
  · simp only [Option.bind_eq_bind, Option.bind_eq_some_iff, Option.pure_def, Option.some.injEq,
      Prod.mk.injEq] at h
    obtain ⟨_, _, _, _, _, _, _, _, _, rfl⟩ := h
    simp only [List.length_cons]
    omega
  · simp at h

theorem length_takeLowHalf? {text rest : List Char} {unit : Nat}
    (h : takeLowHalf? text = some (unit, rest)) : rest.length < text.length := by
  unfold takeLowHalf? at h
  split at h
  · split at h
    · rename_i heq
      split at h
      · simp only [Option.some.injEq, Prod.mk.injEq] at h
        have := length_takeUnit? heq
        rw [← h.2]
        simp only [List.length_cons]
        omega
      · simp at h
    · simp at h
  · simp at h

theorem rest_lone {halves : Halves} {text rest : List Char} {c : Char}
    (h : halves.lone text = some (c, rest)) : rest = text := by
  cases halves <;> simp [Halves.lone] at h
  exact h.2.symm

theorem length_takeEscape? {halves : Halves} {text rest : List Char} {c : Char}
    (h : takeEscape? halves text = some (c, rest)) : rest.length < text.length := by
  unfold takeEscape? at h
  split at h
  iterate 8
    · simp only [Option.some.injEq, Prod.mk.injEq] at h
      rw [← h.2]
      simp
  · split at h
    · simp at h
    · rename_i heq
      have hunit := length_takeUnit? heq
      simp only [List.length_cons]
      split at h
      · split at h
        · rename_i hlow
          have := length_takeLowHalf? hlow
          simp only [Option.some.injEq, Prod.mk.injEq] at h
          rw [← h.2]
          omega
        · rw [rest_lone h]
          omega
      · split at h
        · rw [rest_lone h]
          omega
        · simp only [Option.some.injEq, Prod.mk.injEq] at h
          rw [← h.2]
          omega
  · simp at h

/-- The characters of a string up to its closing quote, which is taken too. Control characters have
to be escaped. -/
def takeChars? (halves : Halves) (text : List Char) : Option (List Char × List Char) :=
  match text with
  | [] => none
  | '"' :: rest => some ([], rest)
  | '\\' :: escaped =>
    match hescape : takeEscape? halves escaped with
    | none => none
    | some (c, rest) =>
      have := length_takeEscape? hescape
      (takeChars? halves rest).map fun taken => (c :: taken.1, taken.2)
  | c :: rest =>
    if c.toNat < 0x20 then none
    else (takeChars? halves rest).map fun taken => (c :: taken.1, taken.2)
termination_by text.length
decreasing_by
  · simp only [List.length_cons]
    omega
  · simp

theorem length_takeChars? {halves : Halves} {text chars rest : List Char}
    (h : takeChars? halves text = some (chars, rest)) : rest.length < text.length := by
  fun_induction takeChars? halves text generalizing chars rest with
  | case1 => simp at h
  | case2 rest' =>
    simp only [Option.some.injEq, Prod.mk.injEq] at h
    rw [← h.2]
    simp
  | case3 => simp at h
  | case4 escaped c left _ bound ih =>
    obtain ⟨taken, htaken, h⟩ := Option.map_eq_some_iff.1 h
    simp only [Prod.mk.injEq] at h
    have := ih htaken
    rw [← h.2]
    simp only [List.length_cons]
    omega
  | case5 => simp at h
  | case6 c left _ _ _ ih =>
    obtain ⟨taken, htaken, h⟩ := Option.map_eq_some_iff.1 h
    simp only [Prod.mk.injEq] at h
    have := ih htaken
    rw [← h.2]
    simp only [List.length_cons]
    omega

/-! ## Numbers -/

/-- The digits at the front of a text, and what follows them. -/
def takeDigits (text : List Char) : List Char × List Char :=
  (text.takeWhile Char.isDigit, text.dropWhile Char.isDigit)

/-- One digit or more. -/
def takeDigits? (text : List Char) : Option (List Char × List Char) :=
  if (takeDigits text).1.isEmpty then none else some (takeDigits text)

/-- The digits before the point: a zero stands there only alone. -/
def takeWhole? (text : List Char) : Option (List Char × List Char) :=
  match takeDigits? text with
  | some ('0' :: _ :: _, _) => none
  | taken => taken

/-- The point and the digits after it, if there is a point. -/
def takeFraction? : List Char → Option (Option (List Char) × List Char)
  | '.' :: text => (takeDigits? text).map fun taken => (some taken.1, taken.2)
  | text => some (none, text)

/-- The sign of an exponent, which may be missing. -/
def takeSign : List Char → Bool × List Char
  | '-' :: rest => (true, rest)
  | '+' :: rest => (false, rest)
  | text => (false, text)

/-- The exponent, if its mark is there. -/
def takeExponent? (text : List Char) : Option (Option (Bool × List Char) × List Char) :=
  match text with
  | c :: rest =>
    if c = 'e' ∨ c = 'E' then
      (takeDigits? (takeSign rest).2).map fun taken =>
        (some ((takeSign rest).1, taken.1), taken.2)
    else some (none, text)
  | [] => some (none, [])

/-- The minus sign of a number, if it is there. -/
def takeMinus : List Char → Bool × List Char
  | '-' :: rest => (true, rest)
  | text => (false, text)

/-- A number. -/
def takeNumeral? (text : List Char) : Option (Numeral × List Char) := do
  let (negative, unsigned) := takeMinus text
  let (whole, afterWhole) ← takeWhole? unsigned
  let (fraction, afterFraction) ← takeFraction? afterWhole
  let (exponent, rest) ← takeExponent? afterFraction
  return (⟨negative, whole, fraction, exponent⟩, rest)

theorem length_takeDigits (text : List Char) :
    (takeDigits text).1.length + (takeDigits text).2.length = text.length := by
  rw [← List.length_append, takeDigits, List.takeWhile_append_dropWhile]

theorem length_takeDigits? {text digits rest : List Char}
    (h : takeDigits? text = some (digits, rest)) : rest.length < text.length := by
  unfold takeDigits? at h
  split at h
  · simp at h
  · rename_i hne
    have hsum := length_takeDigits text
    have hpos : (takeDigits text).1.length ≠ 0 := by simpa using hne
    have heq : (takeDigits text).2 = rest := by
      simp only [Option.some.injEq] at h
      rw [h]
    rw [heq] at hsum
    omega

theorem length_takeWhole? {text digits rest : List Char}
    (h : takeWhole? text = some (digits, rest)) : rest.length < text.length := by
  unfold takeWhole? at h
  split at h
  · simp at h
  · exact length_takeDigits? h

theorem length_takeFraction? {text rest : List Char} {fraction : Option (List Char)}
    (h : takeFraction? text = some (fraction, rest)) : rest.length ≤ text.length := by
  unfold takeFraction? at h
  split at h
  · obtain ⟨taken, htaken, h⟩ := Option.map_eq_some_iff.1 h
    simp only [Prod.mk.injEq] at h
    have := length_takeDigits? htaken
    rw [← h.2]
    simp only [List.length_cons]
    omega
  · simp only [Option.some.injEq, Prod.mk.injEq] at h
    exact Nat.le_of_eq (congrArg List.length h.2.symm)

theorem length_takeSign_le (text : List Char) : (takeSign text).2.length ≤ text.length := by
  unfold takeSign
  split <;> simp

theorem length_takeMinus_le (text : List Char) : (takeMinus text).2.length ≤ text.length := by
  unfold takeMinus
  split <;> simp

theorem length_takeExponent? {text rest : List Char} {exponent : Option (Bool × List Char)}
    (h : takeExponent? text = some (exponent, rest)) : rest.length ≤ text.length := by
  unfold takeExponent? at h
  split at h
  · rename_i c after
    split at h
    · obtain ⟨taken, htaken, h⟩ := Option.map_eq_some_iff.1 h
      simp only [Prod.mk.injEq] at h
      have := length_takeDigits? htaken
      have := length_takeSign_le after
      rw [← h.2]
      simp only [List.length_cons]
      omega
    · simp only [Option.some.injEq, Prod.mk.injEq] at h
      exact Nat.le_of_eq (congrArg List.length h.2.symm)
  · simp only [Option.some.injEq, Prod.mk.injEq] at h
    exact Nat.le_of_eq (congrArg List.length h.2.symm)

theorem length_takeNumeral? {text rest : List Char} {numeral : Numeral}
    (h : takeNumeral? text = some (numeral, rest)) : rest.length < text.length := by
  simp only [takeNumeral?, Option.bind_eq_bind, Option.bind_eq_some_iff, Option.pure_def,
    Option.some.injEq, Prod.mk.injEq] at h
  obtain ⟨whole, hwhole, fraction, hfraction, exponent, hexponent, _, hrest⟩ := h
  have := length_takeMinus_le text
  have := length_takeWhole? hwhole
  have := length_takeFraction? hfraction
  have := length_takeExponent? hexponent
  rw [← hrest]
  omega

/-! ## Words -/

/-- The three values that are written as words. -/
def takeWord? (text : List Char) : Option (Json × List Char) :=
  match text with
  | 'n' :: 'u' :: 'l' :: 'l' :: rest => some (.null, rest)
  | 't' :: 'r' :: 'u' :: 'e' :: rest => some (.bool true, rest)
  | 'f' :: 'a' :: 'l' :: 's' :: 'e' :: rest => some (.bool false, rest)
  | _ => none

theorem length_takeWord? {text rest : List Char} {value : Json}
    (h : takeWord? text = some (value, rest)) : rest.length < text.length := by
  unfold takeWord? at h
  split at h
  iterate 3
    · simp only [Option.some.injEq, Prod.mk.injEq] at h
      rw [← h.2]
      simp only [List.length_cons]
      omega
  · simp at h

end Varsheet.Json
