import Varsheet.Proofs.Options.Loading

/-!
# Which texts give options

Where no value of an unknown name has an escape of half a surrogate pair, the loader takes the texts of strict
JSON values that set fields, and refuses all others with the same code.

* `HalfInUnknown` : an escape of half a pair in the value of an unknown name
* `spaced_spellsLoosely_iff` : for other texts, the loader's reading is the strict one
* `Options.ofJson_iff_isTextOf` : which texts give options, and which options they give
-/

namespace Varsheet

open Json

/-! ## Halves in the values of unknown names -/

/-- A member of an unknown name, with an escape of half a pair in its value. -/
def HalfInMember (name : String) (value : Json) (text : List Char) : Prop :=
  Field.ofName? name = none ∧
    SpellsMember .refused name (fun spelled => Spells .replaced value spelled ∧ NamesHalf spelled) text

/-- The same for one of the members between the braces of an object. -/
def HalfAmong : List (String × Json) → List Char → Prop
  | [], _ => False
  | [(name, value)], text => HalfInMember name value text
  | (name, value) :: next :: rest, text =>
    ∃ first behind, text = first ++ ',' :: behind ∧
      (HalfInMember name value first ∧ SpellsMembers .refused lenience (next :: rest) behind ∨
        SpellsMember .refused name (Spells (lenience name) value) first ∧ HalfAmong (next :: rest) behind)

/-- The text is an object, and an escape in the value of an unknown name names half a surrogate pair. -/
def HalfInUnknown (text : String) : Prop :=
  ∃ members, Spaced (fun object => ∃ body, object = '\x7b' :: (body ++ ['\x7d']) ∧ HalfAmong members body)
    text.toList

section

variable {name : String} {value : Json} {text : List Char}

theorem Json.SpellsMember.strict (spelled : SpellsMember .refused name (Spells (lenience name) value) text)
    (absent : ¬ HalfInMember name value text) : SpellsMember .refused name (Spells .refused value) text := by
  cases known : Field.ofName? name with
  | some field =>
    obtain rfl := Field.ofName?_eq_some_iff.1 known
    rwa [lenience_name] at spelled
  | none =>
    rw [lenience_of_unknown known] at spelled
    obtain ⟨label, content, parts, spacedLabel, before, middle, behind, parts', isBefore, inner, isBehind⟩ := spelled
    -- only here does the loader let halves pass, and there are none
    have plain : ¬ NamesHalf middle := fun names => absent
      ⟨known, label, content, parts, spacedLabel, before, middle, behind, parts', isBefore, ⟨inner, names⟩, isBehind⟩
    exact ⟨label, content, parts, spacedLabel, before, middle, behind, parts', isBefore,
      (Spells.refusable value middle inner).2 plain, isBehind⟩

end

theorem Json.SpellsMembers.strict : ∀ (members : List (String × Json)) (body : List Char),
    SpellsMembers .refused lenience members body → ¬ HalfAmong members body →
      SpellsMembers .refused (fun _ => .refused) members body
  | [], _, blank, _ => blank
  | [(_, _)], _, spelled, absent => SpellsMember.strict spelled absent
  | (_, _) :: next :: rest, _, ⟨first, behind, parts, spelled, spelledRest⟩, absent =>
    ⟨first, behind, parts,
      SpellsMember.strict spelled fun half => absent ⟨first, behind, parts, .inl ⟨half, spelledRest⟩⟩,
      SpellsMembers.strict (next :: rest) behind spelledRest
        fun half => absent ⟨first, behind, parts, .inr ⟨spelled, half⟩⟩⟩

/-- The loader reads strictly wherever its liberty does not matter. -/
theorem spaced_spellsLoosely_iff {value : Json} {text : String} (noHalf : ¬ HalfInUnknown text) :
    Spaced value.SpellsLoosely text.toList ↔ value.IsTextOf text := by
  constructor
  · rintro ⟨before, middle, behind, parts, isBefore, spelled, isBehind⟩
    refine ⟨before, middle, behind, parts, isBefore, ?_, isBehind⟩
    cases value with
    | object members =>
      obtain ⟨body, split, spelled⟩ := spelled
      refine ⟨body, split, SpellsMembers.strict members body spelled fun half => noHalf ?_⟩
      exact ⟨members, before, middle, behind, parts, isBefore, ⟨body, split, half⟩, isBehind⟩
    | null | bool _ | number _ | string _ | array _ => exact spelled
  · exact fun spaced => spaced.imp fun _ => spellsLoosely_of_spells

theorem Json.SpellsChars.of_plain {halves : Halves} {chars : List Char}
    (plain : chars.all (fun c => 0x20 ≤ c.toNat ∧ c ≠ '"' ∧ c ≠ '\\') = true) : SpellsChars halves chars chars := by
  induction chars with
  | nil => exact .nil
  | cons c chars ih =>
    obtain ⟨here, rest⟩ := Bool.and_eq_true_iff.1 plain
    obtain ⟨notControl, notQuote, notBackslash⟩ := of_decide_eq_true here
    exact .plain notControl notQuote notBackslash (ih rest)

theorem Json.SpellsString.of_plain {halves : Halves} (text : String)
    (plain : text.toList.all (fun c => 0x20 ≤ c.toNat ∧ c ≠ '"' ∧ c ≠ '\\') = true) :
    SpellsString halves text ('"' :: (text.toList ++ ['"'])) :=
  ⟨text.toList, rfl, .of_plain plain⟩

theorem Json.Spaced.bare {inner : List Char → Prop} {text : List Char} (spelled : inner text) : Spaced inner text :=
  ⟨[], text, [], by simp, blank_nil, spelled, blank_nil⟩

/-! ### Texts without such halves -/

theorem HalfInMember.exists_piece {name : String} {value : Json} {text : List Char}
    (half : HalfInMember name value text) : ∃ spelled, spelled <:+: text ∧ NamesHalf spelled := by
  obtain ⟨-, label, content, rfl, -, before, spelled, behind, rfl, -, ⟨-, names⟩, -⟩ := half
  exact ⟨spelled, ⟨label ++ ':' :: before, behind, by simp⟩, names⟩

theorem HalfAmong.exists_piece : ∀ {members : List (String × Json)} {body : List Char}, HalfAmong members body →
    ∃ spelled, spelled <:+: body ∧ NamesHalf spelled
  | [(_, _)], _, half => HalfInMember.exists_piece half
  | (_, _) :: next :: rest, _, ⟨first, behind, parts, .inl ⟨half, _⟩⟩ => by
    obtain ⟨spelled, within, names⟩ := half.exists_piece
    rw [parts]
    exact ⟨spelled, within.trans ⟨[], ',' :: behind, by simp⟩, names⟩
  | (_, _) :: next :: rest, _, ⟨first, behind, parts, .inr ⟨_, half⟩⟩ => by
    obtain ⟨spelled, within, names⟩ := half.exists_piece
    rw [parts]
    exact ⟨spelled, within.trans ⟨first ++ [','], [], by simp⟩, names⟩

theorem eq_of_hexValue?_thirteen {c : Char} (hex : Text.hexValue? c = some 13) : c = 'd' ∨ c = 'D' := by
  have sameCode {e : Char} (code : c.toNat = e.toNat) : c = e := Char.toNat_inj.1 code
  unfold Text.hexValue? at hex
  split at hex
  · rename_i range
    have bound : c.toNat ≤ 57 := range.2
    rw [Option.some.injEq] at hex
    omega
  · split at hex
    · rw [Option.some.injEq] at hex
      exact .inl (sameCode (show c.toNat = 100 by omega))
    · split at hex
      · rw [Option.some.injEq] at hex
        exact .inr (sameCode (show c.toNat = 68 by omega))
      · cases hex

/-- The four digits of half a pair start with a D. -/
theorem Json.NamesHalf.mem_digit {text : List Char} (names : NamesHalf text) : 'd' ∈ text ∨ 'D' ∈ text := by
  induction names with
  | here spelled half =>
    obtain @⟨a, b, c, d, i, j, k, l, first, second, third, fourth⟩ := spelled
    -- all numbers of halves lie from D800 to DFFF
    have lead : i = 13 := by
      have := lt_of_hexValue? first
      have := lt_of_hexValue? second
      have := lt_of_hexValue? third
      have := lt_of_hexValue? fourth
      simp only [IsHigh, IsLow] at half
      omega
    rw [lead] at first
    obtain rfl | rfl := eq_of_hexValue?_thirteen first <;> simp
  | behindEscape _ ih => exact ih.imp (fun m => by simp [m]) (fun m => by simp [m])
  | behindPlain _ _ ih => exact ih.imp (List.mem_cons_of_mem _) (List.mem_cons_of_mem _)

theorem not_halfInUnknown {text : String} (small : 'd' ∉ text.toList) (capital : 'D' ∉ text.toList) :
    ¬ HalfInUnknown text := by
  rintro ⟨members, before, _, behind, parts, -, ⟨body, rfl, half⟩, -⟩
  obtain ⟨spelled, within, names⟩ := half.exists_piece
  have piece : spelled <:+: text.toList := by
    rw [parts]
    exact within.trans ⟨before ++ ['\x7b'], '\x7d' :: behind, by simp⟩
  obtain digit | digit := names.mem_digit
  · exact small (piece.subset digit)
  · exact capital (piece.subset digit)

/-! ## Options -/

namespace Options

/-- A text gives options exactly if it is a strict JSON value that sets fields, namely those fields over the
defaults. Every other text is refused with code 310. -/
theorem ofJson_iff_isTextOf (text : String) (noHalf : ¬ HalfInUnknown text) :
    (∀ options, Options.ofJson text = .ok options ↔
      ∃ (value : Json) (patch : Patch), value.IsTextOf text ∧ value.Sets patch ∧ options = .ofPatch patch) ∧
    ((¬ ∃ (value : Json) (patch : Patch), value.IsTextOf text ∧ value.Sets patch) →
      ∃ message hint, Options.ofJson text = .error (.badOptions message ⟨some hint, some 310⟩)) := by
  have loaded (patch : Patch) :
      Patch.ofJson text = .ok patch ↔ ∃ value : Json, value.IsTextOf text ∧ value.Sets patch := by
    simp only [Patch.ofJson_eq_ok_iff, spaced_spellsLoosely_iff noHalf]
  constructor
  · intro options
    rw [ofJson_eq_ok_iff]
    constructor
    · rintro ⟨patch, taken, rfl⟩
      obtain ⟨value, isText, sets⟩ := (loaded patch).1 taken
      exact ⟨value, patch, isText, sets, rfl⟩
    · rintro ⟨value, patch, isText, sets, rfl⟩
      exact ⟨patch, (loaded patch).2 ⟨value, isText, sets⟩, rfl⟩
  · intro none
    refine exists_error_of_ne_ok fun patch taken => none ?_
    obtain ⟨value, isText, sets⟩ := (loaded patch).1 taken
    exact ⟨value, patch, isText, sets⟩

/-! ### A sample -/

/-- An escaped name, an unknown name with an array as its value, and a field that is null. -/
def escapedText : String :=
  "\x7b \"\\u0074arget\" : \"sass\",\"x\":[1e999,\x7b\"x\":null\x7d],\"solve\":null\x7d"

def escapedMembers : List (String × Json) :=
  [("target", .string "sass"),
    ("x", .array [.number ⟨false, ['1'], none, some (false, ['9', '9', '9'])⟩, .object [("x", .null)]]),
    ("solve", .null)]

theorem sets_escapedMembers :
    (Json.object escapedMembers).Sets { Patch.empty with target := some .stylesheet } := by
  refine ⟨fun field => by cases field <;> decide, fun field value member => ?_, rfl⟩
  cases field <;> simp [escapedMembers, Field.name] at member <;> subst member <;> decide

theorem spells_escapedName : SpellsString .refused "target" "\"\\u0074arget\"".toList := by
  have unit : SpellsUnit 't'.toNat ['0', '0', '7', '4'] :=
    SpellsUnit.digits (i := 0) (j := 0) (k := 7) (l := 4) rfl rfl rfl rfl
  have rest : SpellsChars .refused "arget".toList "arget".toList := .of_plain (by decide)
  exact ⟨_, rfl, .escape (.unit unit) rest⟩

theorem isTextOf_escapedText : (Json.object escapedMembers).IsTextOf escapedText := by
  have space : Blank [' '] := .cons rfl blank_nil
  have number : SpellsNumeral ⟨false, ['1'], none, some (false, ['9', '9', '9'])⟩ "1e999".toList :=
    ⟨[], [], "e999".toList, rfl, rfl, ⟨⟨by decide, List.all_eq_true.1 rfl⟩, nofun⟩, rfl,
      'e', [], rfl, .inl rfl, .inl rfl, by decide, List.all_eq_true.1 rfl⟩
  have nested : Spells .refused (.object [("x", .null)]) "\x7b\"x\":null\x7d".toList :=
    ⟨"\"x\":null".toList, rfl, "\"x\"".toList, "null".toList, rfl, .bare (.of_plain "x" (by decide)), .bare rfl⟩
  refine .bare ⟨_, rfl, " \"\\u0074arget\" : \"sass\"".toList, _, rfl, ?_,
    "\"x\":[1e999,\x7b\"x\":null\x7d]".toList, "\"solve\":null".toList, rfl, ?_, ?_⟩
  · exact ⟨" \"\\u0074arget\" ".toList, " \"sass\"".toList, rfl,
      ⟨[' '], "\"\\u0074arget\"".toList, [' '], rfl, space, spells_escapedName, space⟩,
      ⟨[' '], "\"sass\"".toList, [], rfl, space, .of_plain "sass" (by decide), blank_nil⟩⟩
  · exact ⟨"\"x\"".toList, "[1e999,\x7b\"x\":null\x7d]".toList, rfl, .bare (.of_plain "x" (by decide)),
      .bare ⟨"1e999,\x7b\"x\":null\x7d".toList, rfl, "1e999".toList, "\x7b\"x\":null\x7d".toList, rfl,
        .bare number, .bare nested⟩⟩
  · exact ⟨"\"solve\"".toList, "null".toList, rfl, .bare (.of_plain "solve" (by decide)), .bare rfl⟩

theorem ofJson_iff_isTextOf_escaped :
    ¬ HalfInUnknown escapedText ∧
      Options.ofJson escapedText = .ok { Options.default with target := .stylesheet } := by
  have noHalf : ¬ HalfInUnknown escapedText := not_halfInUnknown (by decide) (by decide)
  exact ⟨noHalf, ((ofJson_iff_isTextOf escapedText noHalf).1 _).2
    ⟨_, _, isTextOf_escapedText, sets_escapedMembers, rfl⟩⟩

end Options

end Varsheet
