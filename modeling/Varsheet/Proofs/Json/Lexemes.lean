import Varsheet.Proofs.Json.Grammar

/-!
# Reading the pieces of JSON

Each reader of a piece takes a text that spells the piece off the front, and nothing else. Strings end at their
closing quote; a number goes as far as it can, so that what follows it must not go on with it.

* `spells_of_takeEscape?`, `SpellsEscape.takeEscape?` : escapes
* `spells_of_takeChars?`, `SpellsChars.takeChars?` : strings
* `spells_of_takeNumeral?`, `takeNumeral?_append` : numbers
-/

namespace Varsheet.Json

/-! ## White space -/

theorem Blank.cons {c : Char} {text : List Char} (space : isSpace c = true) (blank : Blank text) :
    Blank (c :: text) :=
  List.forall_mem_cons.2 ⟨space, blank⟩

theorem blank_nil : Blank [] := fun _ member => nomatch member

theorem skipBlank_append {blank : List Char} (isBlank : Blank blank) (rest : List Char) :
    skipBlank (blank ++ rest) = skipBlank rest :=
  List.dropWhile_append_of_pos isBlank

theorem skipBlank_cons {c : Char} (rest : List Char) (solid : isSpace c = false) :
    skipBlank (c :: rest) = c :: rest :=
  List.dropWhile_cons_of_neg (by simp [solid])

/-- White space is skipped up to the first character that is none. -/
theorem exists_blank_append_skipBlank (text : List Char) :
    ∃ blank, Blank blank ∧ text = blank ++ skipBlank text := by
  refine ⟨text.takeWhile isSpace, fun c member => ?_, List.takeWhile_append_dropWhile.symm⟩
  exact List.all_eq_true.1 List.all_takeWhile c member

/-! ## Escapes -/

section

variable {halves : Halves} {text rest : List Char} {unit : Nat} {c : Char}

theorem SpellsUnit.takeUnit? {digits : List Char} (spelled : SpellsUnit unit digits) (rest : List Char) :
    takeUnit? (digits ++ rest) = some (unit, rest) := by
  obtain ⟨first, second, third, fourth⟩ := spelled
  simp [Json.takeUnit?, first, second, third, fourth]

theorem spells_of_takeUnit? (taken : takeUnit? text = some (unit, rest)) :
    ∃ digits, text = digits ++ rest ∧ SpellsUnit unit digits := by
  unfold takeUnit? at taken
  split at taken
  · simp only [Option.bind_eq_bind, Option.bind_eq_some_iff, Option.pure_def, Option.some.injEq,
      Prod.mk.injEq] at taken
    obtain ⟨i, first, j, second, k, third, l, fourth, rfl, rfl⟩ := taken
    exact ⟨_, rfl, .digits first second third fourth⟩
  · cases taken

theorem takeLowHalf?_eq_some_iff :
    takeLowHalf? text = some (unit, rest) ↔
      ∃ digits, text = '\\' :: 'u' :: (digits ++ rest) ∧ SpellsUnit unit digits ∧ IsLow unit := by
  constructor
  · intro taken
    unfold takeLowHalf? at taken
    split at taken
    · split at taken
      · rename_i found
        split at taken
        · rename_i isLow
          cases taken
          obtain ⟨digits, rfl, spelled⟩ := spells_of_takeUnit? found
          exact ⟨digits, rfl, spelled, isLow⟩
        · cases taken
      · cases taken
    · cases taken
  · rintro ⟨digits, rfl, spelled, isLow⟩
    simp only [takeLowHalf?, spelled.takeUnit? rest]
    exact if_pos isLow

theorem takeLowHalf?_eq_none_iff : takeLowHalf? text = none ↔ ¬ StartsLow text := by
  rw [Option.eq_none_iff_forall_ne_some, StartsLow]
  constructor
  · rintro absent ⟨unit, digits, behind, parts⟩
    exact absent (unit, behind) (takeLowHalf?_eq_some_iff.2 ⟨digits, parts⟩)
  · rintro absent ⟨unit, behind⟩ found
    obtain ⟨digits, parts⟩ := takeLowHalf?_eq_some_iff.1 found
    exact absent ⟨unit, digits, behind, parts⟩

theorem lt_of_hexValue? {value : Nat} (h : Text.hexValue? c = some value) : value < 16 := by
  have bound {a b : Char} (h : a ≤ c ∧ c ≤ b) : a.toNat ≤ c.toNat ∧ c.toNat ≤ b.toNat := h
  unfold Text.hexValue? at h
  split at h
  · rename_i digit
    have : 48 ≤ c.toNat ∧ c.toNat ≤ 57 := bound digit
    cases h
    omega
  · split at h
    · rename_i lower
      have : 97 ≤ c.toNat ∧ c.toNat ≤ 102 := bound lower
      cases h
      omega
    · split at h
      · rename_i upper
        have : 65 ≤ c.toNat ∧ c.toNat ≤ 70 := bound upper
        cases h
        omega
      · cases h

theorem SpellsUnit.lt {digits : List Char} (spelled : SpellsUnit unit digits) : unit < 0x10000 := by
  obtain ⟨first, second, third, fourth⟩ := spelled
  have := lt_of_hexValue? first
  have := lt_of_hexValue? second
  have := lt_of_hexValue? third
  have := lt_of_hexValue? fourth
  omega

theorem toNat_ofNat {n : Nat} (valid : n.isValidChar) : (Char.ofNat n).toNat = n := by
  rw [Char.ofNat, dif_pos valid]
  exact (UInt32.toNat_ofNatLT ..)

/-- The number of a character is never that of half a pair. -/
theorem not_isHalf_toNat (c : Char) : ¬ IsHigh c.toNat ∧ ¬ IsLow c.toNat := by
  have valid : c.toNat < 55296 ∨ 57343 < c.toNat ∧ c.toNat < 1114112 := c.valid
  simp only [IsHigh, IsLow]
  omega

theorem spells_of_takeEscape? (taken : takeEscape? halves text = some (c, rest)) :
    ∃ escape, text = escape ++ rest ∧ SpellsEscape halves c escape rest := by
  unfold takeEscape? at taken
  split at taken
  iterate 8
    · cases taken
      exact ⟨[_], rfl, .short (by decide)⟩
  · split at taken
    · cases taken
    · rename_i unit behind found
      obtain ⟨digits, rfl, spelled⟩ := spells_of_takeUnit? found
      split at taken
      · rename_i isHigh
        split at taken
        · rename_i low left foundLow
          obtain ⟨rfl, rfl⟩ := Prod.mk.inj (Option.some.inj taken)
          obtain ⟨digits', rfl, spelled', isLow⟩ := takeLowHalf?_eq_some_iff.1 foundLow
          refine ⟨'u' :: (digits ++ '\\' :: 'u' :: digits'), by simp, .pair spelled isHigh spelled' isLow ?_⟩
          refine toNat_ofNat (.inr ?_)
          simp only [IsLow] at isLow
          omega
        · rename_i absent
          cases halves with
          | refused => cases taken
          | replaced =>
            cases taken
            exact ⟨'u' :: digits, rfl, .lone rfl spelled (.inl ⟨isHigh, takeLowHalf?_eq_none_iff.1 absent⟩)⟩
      · rename_i notHigh
        split at taken
        · rename_i isLow
          cases halves with
          | refused => cases taken
          | replaced =>
            cases taken
            exact ⟨'u' :: digits, rfl, .lone rfl spelled (.inr isLow)⟩
        · rename_i notLow
          cases taken
          have code : (Char.ofNat unit).toNat = unit := by
            have := spelled.lt
            refine toNat_ofNat ?_
            show unit < 55296 ∨ 57343 < unit ∧ unit < 1114112
            omega
          exact ⟨'u' :: digits, rfl, .unit (by rwa [code])⟩
  · cases taken

theorem SpellsEscape.takeEscape? {escape : List Char} (spelled : SpellsEscape halves c escape rest) :
    takeEscape? halves (escape ++ rest) = some (c, rest) := by
  cases spelled with
  | short listed =>
    simp only [shortEscapes, List.mem_cons, Prod.mk.injEq, List.not_mem_nil, or_false] at listed
    rcases listed with ⟨rfl, rfl⟩ | ⟨rfl, rfl⟩ | ⟨rfl, rfl⟩ | ⟨rfl, rfl⟩ | ⟨rfl, rfl⟩ | ⟨rfl, rfl⟩ |
      ⟨rfl, rfl⟩ | ⟨rfl, rfl⟩ <;> rfl
  | unit spelled =>
    obtain ⟨notHigh, notLow⟩ := not_isHalf_toNat c
    unfold IsHigh at notHigh
    unfold IsLow at notLow
    simp only [List.cons_append, Json.takeEscape?, spelled.takeUnit? rest]
    rw [if_neg notHigh, if_neg notLow, Char.ofNat_toNat]
  | @pair _ high low digits digits' _ first isHigh second isLow code =>
    have found := first.takeUnit? ('\\' :: 'u' :: (digits' ++ rest))
    have foundLow : takeLowHalf? ('\\' :: 'u' :: (digits' ++ rest)) = some (low, rest) :=
      takeLowHalf?_eq_some_iff.2 ⟨digits', rfl, second, isLow⟩
    simp only [List.cons_append, List.append_assoc, Json.takeEscape?, found, foundLow]
    unfold IsHigh at isHigh
    rw [if_pos isHigh, ofHalves, ← code, Char.ofNat_toNat]
  | @lone half digits _ let_pass spelled alone =>
    subst let_pass
    unfold IsHigh IsLow at alone
    simp only [List.cons_append, Json.takeEscape?, spelled.takeUnit? rest]
    obtain ⟨isHigh, absent⟩ | isLow := alone
    · rw [if_pos isHigh, takeLowHalf?_eq_none_iff.2 absent]
      rfl
    · rw [if_neg (by omega), if_pos isLow]
      rfl

end

/-! ## Strings -/

section

variable {halves : Halves} {chars body text rest : List Char} {c : Char}

theorem takeChars?_escape {escaped : List Char} (taken : takeEscape? halves escaped = some (c, rest)) :
    takeChars? halves ('\\' :: escaped) =
      (takeChars? halves rest).map fun taken => (c :: taken.1, taken.2) := by
  rw [takeChars?]
  split
  · rename_i none
    rw [taken] at none
    cases none
  · rename_i found
    rw [taken] at found
    cases found
    rfl

theorem takeChars?_plain (notControl : 0x20 ≤ c.toNat) (notQuote : c ≠ '"') (notBackslash : c ≠ '\\') :
    takeChars? halves (c :: rest) =
      (takeChars? halves rest).map fun taken => (c :: taken.1, taken.2) := by
  rw [takeChars?]
  · exact if_neg (Nat.not_lt.2 notControl)
  · exact notQuote
  · exact notBackslash

/-- No escape reaches over the closing quote of its string. -/
theorem StartsLow.of_append_quote (starts : StartsLow (body ++ '"' :: rest)) : StartsLow body := by
  obtain ⟨unit, _, behind, parts, ⟨first, second, third, fourth⟩, isLow⟩ := starts
  have notHex : Text.hexValue? '"' = none := by decide
  match body with
  | [] | [_] => simp at parts
  | [_, _] | [_, _, _] | [_, _, _, _] | [_, _, _, _, _] =>
    simp only [List.cons_append, List.nil_append, List.cons.injEq] at parts
    grind
  | _ :: _ :: _ :: _ :: _ :: _ :: body =>
    simp only [List.cons_append, List.nil_append, List.cons.injEq] at parts
    obtain ⟨rfl, rfl, rfl, rfl, rfl, rfl, rfl⟩ := parts
    exact ⟨_, _, body, rfl, .digits first second third fourth, isLow⟩

theorem StartsLow.append (starts : StartsLow body) (rest : List Char) : StartsLow (body ++ rest) := by
  obtain ⟨unit, digits, behind, rfl, spelled⟩ := starts
  exact ⟨unit, digits, behind ++ rest, by simp, spelled⟩

theorem spellsEscape_append_quote_iff {escape : List Char} :
    SpellsEscape halves c escape (body ++ '"' :: rest) ↔ SpellsEscape halves c escape body := by
  constructor
  · rintro (listed | spelled | ⟨first, isHigh, second, isLow, code⟩ | ⟨let_pass, spelled, alone⟩)
    · exact .short listed
    · exact .unit spelled
    · exact .pair first isHigh second isLow code
    · exact .lone let_pass spelled (alone.imp_left fun high => ⟨high.1, fun starts => high.2 (starts.append _)⟩)
  · rintro (listed | spelled | ⟨first, isHigh, second, isLow, code⟩ | ⟨let_pass, spelled, alone⟩)
    · exact .short listed
    · exact .unit spelled
    · exact .pair first isHigh second isLow code
    · exact .lone let_pass spelled (alone.imp_left fun high => ⟨high.1, fun starts => high.2 starts.of_append_quote⟩)

theorem SpellsChars.takeChars? (spelled : SpellsChars halves chars body) (rest : List Char) :
    takeChars? halves (body ++ '"' :: rest) = some (chars, rest) := by
  induction spelled with
  | nil => simp [Json.takeChars?]
  | plain notControl notQuote notBackslash _ ih =>
    rw [List.cons_append, takeChars?_plain notControl notQuote notBackslash, ih]
    rfl
  | escape first _ ih =>
    rw [List.cons_append, List.append_assoc,
      takeChars?_escape (spellsEscape_append_quote_iff.2 first).takeEscape?, ih]
    rfl

theorem spells_of_takeChars? (taken : takeChars? halves text = some (chars, rest)) :
    ∃ body, text = body ++ '"' :: rest ∧ SpellsChars halves chars body := by
  fun_induction takeChars? halves text generalizing chars with
  | case1 => cases taken
  | case2 =>
    cases taken
    exact ⟨[], rfl, .nil⟩
  | case3 => cases taken
  | case4 escaped c behind found _ ih =>
    obtain ⟨⟨others, left⟩, takenRest, same⟩ := Option.map_eq_some_iff.1 taken
    cases same
    obtain ⟨body, rfl, spelled⟩ := ih takenRest
    obtain ⟨escape, rfl, first⟩ := spells_of_takeEscape? found
    exact ⟨'\\' :: (escape ++ body), by simp, .escape (spellsEscape_append_quote_iff.1 first) spelled⟩
  | case5 => cases taken
  | case6 c behind notQuote notBackslash notControl ih =>
    obtain ⟨⟨others, left⟩, takenRest, same⟩ := Option.map_eq_some_iff.1 taken
    cases same
    obtain ⟨body, rfl, spelled⟩ := ih takenRest
    exact ⟨c :: body, rfl, .plain (Nat.not_lt.1 notControl) notQuote notBackslash spelled⟩

end

/-! ## Numbers -/

/-- What may follow a number: nothing that would go on with it. -/
def Ends (rest : List Char) : Prop :=
  ∀ c ∈ rest.head?, c.isDigit = false ∧ c ≠ '.' ∧ c ≠ 'e' ∧ c ≠ 'E'

section

variable {text digits rest : List Char}

theorem takeDigits?_append (isDigits : IsDigits digits)
    (ends : ∀ c ∈ rest.head?, c.isDigit = false) : takeDigits? (digits ++ rest) = some (digits, rest) := by
  have taken : takeDigits (digits ++ rest) = (digits, rest) := by
    rw [takeDigits, List.takeWhile_append_of_pos isDigits.2, List.dropWhile_append_of_pos isDigits.2]
    cases rest with
    | nil => simp
    | cons c rest =>
      have stop : c.isDigit = false := ends c rfl
      simp [stop]
  rw [takeDigits?, taken]
  exact if_neg (by simpa using isDigits.1)

theorem isDigits_of_takeDigits? (taken : takeDigits? text = some (digits, rest)) :
    text = digits ++ rest ∧ IsDigits digits := by
  unfold takeDigits? at taken
  split at taken
  · cases taken
  · rename_i filled
    cases taken
    refine ⟨List.takeWhile_append_dropWhile.symm, by simpa [takeDigits] using filled, ?_⟩
    exact List.all_eq_true.1 List.all_takeWhile

theorem takeWhole?_append (isWhole : IsWhole digits) (ends : ∀ c ∈ rest.head?, c.isDigit = false) :
    takeWhole? (digits ++ rest) = some (digits, rest) := by
  rw [takeWhole?, takeDigits?_append isWhole.1 ends]
  split
  · rename_i same
    cases same
    exact absurd (isWhole.2 rfl) (by simp)
  · rfl

theorem isWhole_of_takeWhole? (taken : takeWhole? text = some (digits, rest)) :
    text = digits ++ rest ∧ IsWhole digits := by
  unfold takeWhole? at taken
  split at taken
  · cases taken
  · rename_i alone
    obtain ⟨parts, isDigits⟩ := isDigits_of_takeDigits? taken
    refine ⟨parts, isDigits, fun zero => ?_⟩
    obtain ⟨others, rfl⟩ := List.head?_eq_some_iff.1 zero
    cases others with
    | nil => rfl
    | cons next others => exact absurd taken (alone next others rest)

theorem takeFraction?_append {fraction : Option (List Char)} (spelled : SpellsFraction fraction text)
    (ends : ∀ c ∈ rest.head?, c.isDigit = false ∧ c ≠ '.') :
    takeFraction? (text ++ rest) = some (fraction, rest) := by
  cases fraction with
  | none =>
    subst spelled
    rw [List.nil_append, takeFraction?]
    rintro behind rfl
    exact (ends '.' rfl).2 rfl
  | some digits =>
    obtain ⟨rfl, isDigits⟩ := spelled
    rw [List.cons_append, takeFraction?, takeDigits?_append isDigits fun c first => (ends c first).1]
    rfl

theorem spells_of_takeFraction? {fraction : Option (List Char)}
    (taken : takeFraction? text = some (fraction, rest)) :
    ∃ front, text = front ++ rest ∧ SpellsFraction fraction front := by
  unfold takeFraction? at taken
  split at taken
  · obtain ⟨⟨digits, left⟩, found, same⟩ := Option.map_eq_some_iff.1 taken
    cases same
    obtain ⟨rfl, isDigits⟩ := isDigits_of_takeDigits? found
    exact ⟨'.' :: digits, rfl, rfl, isDigits⟩
  · cases taken
    exact ⟨[], rfl, rfl⟩

theorem takeSign_append {negative : Bool} {sign : List Char} (spelled : SpellsSign negative sign)
    (isDigits : IsDigits digits) :
    takeSign (sign ++ (digits ++ rest)) = (negative, digits ++ rest) := by
  cases negative with
  | true => subst spelled; rfl
  | false =>
    obtain rfl | rfl := spelled
    · cases digits with
      | nil => exact absurd rfl isDigits.1
      | cons c others =>
        have digit : c.isDigit = true := isDigits.2 c List.mem_cons_self
        rw [List.nil_append, List.cons_append, takeSign]
        · rintro _ ⟨⟩; cases digit
        · rintro _ ⟨⟩; cases digit
    · rfl

theorem spells_takeSign (text : List Char) :
    ∃ sign, text = sign ++ (takeSign text).2 ∧ SpellsSign (takeSign text).1 sign := by
  unfold takeSign
  split
  · exact ⟨['-'], rfl, rfl⟩
  · exact ⟨['+'], rfl, .inr rfl⟩
  · exact ⟨[], rfl, .inl rfl⟩

theorem takeExponent?_append {exponent : Option (Bool × List Char)}
    (spelled : SpellsExponent exponent text) (ends : Ends rest) :
    takeExponent? (text ++ rest) = some (exponent, rest) := by
  cases exponent with
  | none =>
    subst spelled
    cases rest with
    | nil => rfl
    | cons c rest =>
      obtain ⟨-, -, lower, upper⟩ := ends c rfl
      simp [takeExponent?, lower, upper]
  | some parts =>
    obtain ⟨negative, digits⟩ := parts
    obtain ⟨mark, sign, rfl, isMark, spelledSign, isDigits⟩ := spelled
    rw [List.cons_append, List.append_assoc, takeExponent?, if_pos isMark,
      takeSign_append spelledSign isDigits, takeDigits?_append isDigits fun c first => (ends c first).1]
    rfl

theorem spells_of_takeExponent? {exponent : Option (Bool × List Char)}
    (taken : takeExponent? text = some (exponent, rest)) :
    ∃ front, text = front ++ rest ∧ SpellsExponent exponent front := by
  unfold takeExponent? at taken
  split at taken
  · rename_i mark behind
    split at taken
    · rename_i isMark
      obtain ⟨⟨digits, left⟩, found, same⟩ := Option.map_eq_some_iff.1 taken
      cases same
      obtain ⟨parts, isDigits⟩ := isDigits_of_takeDigits? found
      obtain ⟨sign, split, spelledSign⟩ := spells_takeSign behind
      refine ⟨mark :: (sign ++ digits), ?_, mark, sign, rfl, isMark, spelledSign, isDigits⟩
      rw [List.cons_append, List.append_assoc, ← parts, ← split]
    · cases taken
      exact ⟨[], rfl, rfl⟩
  · cases taken
    exact ⟨[], rfl, rfl⟩

theorem takeMinus_append {negative : Bool} (isDigits : IsDigits digits) :
    takeMinus ((if negative then ['-'] else []) ++ (digits ++ rest)) = (negative, digits ++ rest) := by
  cases negative with
  | true => rfl
  | false =>
    cases digits with
    | nil => exact absurd rfl isDigits.1
    | cons c others =>
      have digit : c.isDigit = true := isDigits.2 c List.mem_cons_self
      simp only [Bool.false_eq_true, if_false, List.nil_append, List.cons_append]
      rw [takeMinus]
      rintro _ ⟨⟩; cases digit

theorem takeMinus_parts (text : List Char) :
    text = (if (takeMinus text).1 then ['-'] else []) ++ (takeMinus text).2 := by
  unfold takeMinus
  split <;> rfl

/-- Between the parts of a number stands nothing that could be taken for a further digit. -/
theorem head?_fraction_append {fraction : Option (List Char)} {exponent : Option (Bool × List Char)}
    {front back : List Char} (spelledFraction : SpellsFraction fraction front)
    (spelledExponent : SpellsExponent exponent back) (ends : Ends rest) :
    (∀ c ∈ (back ++ rest).head?, c.isDigit = false ∧ c ≠ '.') ∧
      ∀ c ∈ (front ++ (back ++ rest)).head?, c.isDigit = false := by
  have behind : ∀ c ∈ (back ++ rest).head?, c.isDigit = false ∧ c ≠ '.' := by
    cases exponent with
    | none =>
      subst spelledExponent
      exact fun c first => ⟨(ends c first).1, (ends c first).2.1⟩
    | some parts =>
      obtain ⟨mark, sign, rfl, rfl | rfl, -⟩ := spelledExponent
      · rintro _ ⟨⟩; decide
      · rintro _ ⟨⟩; decide
  refine ⟨behind, ?_⟩
  cases fraction with
  | none =>
    subst spelledFraction
    exact fun c first => (behind c first).1
  | some digits =>
    obtain ⟨rfl, -⟩ := spelledFraction
    rintro _ ⟨⟩; decide

theorem takeNumeral?_append {numeral : Numeral} (spelled : SpellsNumeral numeral text)
    (ends : Ends rest) : takeNumeral? (text ++ rest) = some (numeral, rest) := by
  obtain ⟨_, front, back, rfl, rfl, isWhole, spelledFraction, spelledExponent⟩ := spelled
  obtain ⟨behindFraction, behindWhole⟩ := head?_fraction_append spelledFraction spelledExponent ends
  simp only [takeNumeral?, List.append_assoc, takeMinus_append isWhole.1,
    takeWhole?_append isWhole behindWhole, Option.bind_eq_bind, Option.bind_some,
    takeFraction?_append spelledFraction behindFraction, takeExponent?_append spelledExponent ends]
  rfl

theorem spells_of_takeNumeral? {numeral : Numeral} (taken : takeNumeral? text = some (numeral, rest)) :
    ∃ front, text = front ++ rest ∧ SpellsNumeral numeral front := by
  simp only [takeNumeral?, Option.bind_eq_bind, Option.bind_eq_some_iff, Option.pure_def,
    Option.some.injEq, Prod.mk.injEq] at taken
  obtain ⟨⟨whole, _⟩, foundWhole, ⟨fraction, _⟩, foundFraction, ⟨exponent, _⟩, foundExponent, rfl, rfl⟩ := taken
  obtain ⟨parts, isWhole⟩ := isWhole_of_takeWhole? foundWhole
  obtain ⟨front, rfl, spelledFraction⟩ := spells_of_takeFraction? foundFraction
  obtain ⟨back, rfl, spelledExponent⟩ := spells_of_takeExponent? foundExponent
  refine ⟨_, ?_, _, front, back, rfl, rfl, isWhole, spelledFraction, spelledExponent⟩
  have whole := takeMinus_parts text
  rw [parts] at whole
  simpa using whole

end

end Varsheet.Json
