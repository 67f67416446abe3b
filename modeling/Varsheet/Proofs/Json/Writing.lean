import Varsheet.Proofs.Json.Reading
import Varsheet.Render.Json

/-!
# Trees that are written as JSON

What is written for a tree is a text of its JSON value, whatever characters its names and texts are made of.
Therefore a strict reader gives back the value, and the value gives back the tree.

* `spellsChars_flatMap_escapeChar` : strings
* `spells_value`, `spells_members` : values and the members of an object, over their lines
* `parse?_render` : a tree is read back from its JSON text
-/

namespace Varsheet

/-! ## Trees from JSON -/

mutual

/-- The value that a JSON value stands for. Only strings and objects stand for one. -/
def Json.toValue? : Json → Option Value
  | .string text => some (.scalar text)
  | .object members => (Json.toEntries? members).map .group
  | _ => none

def Json.toEntries? : List (String × Json) → Option (List (String × Value))
  | [] => some []
  | (name, value) :: rest =>
    value.toValue?.bind fun content => (Json.toEntries? rest).map ((name, content) :: ·)

end

def Json.toTree? : Json → Option Tree
  | .object members => Json.toEntries? members
  | _ => none

mutual

theorem toValue?_toJson : ∀ content : Value, content.toJson.toValue? = some content
  | .scalar _ => rfl
  | .group entries => by
    rw [Value.toJson, Json.toValue?, toEntries?_toMembers entries]
    rfl

theorem toEntries?_toMembers : ∀ entries : List (String × Value),
    Json.toEntries? (Tree.toMembers entries) = some entries
  | [] => rfl
  | (key, content) :: rest => by
    rw [Tree.toMembers, Json.toEntries?, toValue?_toJson content, toEntries?_toMembers rest]
    rfl

end

namespace JsonText

open Json

/-! ## Strings -/

theorem hexValue?_hexDigit : ∀ n < 16, Text.hexValue? (hexDigit n) = some n := by decide

theorem spellsUnit_control {c : Char} (control : c.toNat < 0x20) :
    SpellsUnit c.toNat ['0', '0', hexDigit (c.toNat / 16), hexDigit (c.toNat % 16)] := by
  have spelled : SpellsUnit (((0 * 16 + 0) * 16 + c.toNat / 16) * 16 + c.toNat % 16)
      ['0', '0', hexDigit (c.toNat / 16), hexDigit (c.toNat % 16)] :=
    .digits (by decide) (by decide) (hexValue?_hexDigit _ (by omega)) (hexValue?_hexDigit _ (by omega))
  have code : ((0 * 16 + 0) * 16 + c.toNat / 16) * 16 + c.toNat % 16 = c.toNat := by omega
  rwa [code] at spelled

theorem spellsChars_escapeChar_append {chars body : List Char} (c : Char)
    (rest : SpellsChars .refused chars body) :
    SpellsChars .refused (c :: chars) (escapeChar c ++ body) := by
  unfold escapeChar
  split
  iterate 7
    · exact .escape (.short (by decide)) rest
  · rename_i notQuote notBackslash _ _ _ _ _
    split
    · rename_i control
      exact .escape (.unit (spellsUnit_control control)) rest
    · rename_i notControl
      exact .plain (Nat.not_lt.1 notControl) notQuote notBackslash rest

theorem spellsChars_flatMap_escapeChar (chars : List Char) :
    SpellsChars .refused chars (chars.flatMap escapeChar) := by
  induction chars with
  | nil => exact .nil
  | cons c chars ih => exact spellsChars_escapeChar_append c ih

theorem spellsString_string (text : String) : SpellsString .refused text (string text).toList := by
  refine ⟨text.toList.flatMap escapeChar, ?_, spellsChars_flatMap_escapeChar text.toList⟩
  simp [string]

/-! ## Lines -/

theorem blank_indent (level : Nat) : Blank (indent level).toList := by
  intro c member
  rw [indent, String.toList_ofList] at member
  rw [List.eq_of_mem_replicate member]
  rfl

/-- The end of a line and the white space in front of the next one. -/
theorem blank_newline_indent (level : Nat) : Blank ('\n' :: (indent level).toList) :=
  .cons rfl (blank_indent level)

theorem spellsMember_line (key : String) {content : Json} {before written behind : List Char}
    (isBefore : Blank before) (isBehind : Blank behind) (spelled : Spells .refused content written) :
    SpellsMember .refused key (Spells .refused content)
      (before ++ ((string key).toList ++ ':' :: ' ' :: (written ++ behind))) := by
  refine ⟨before ++ ((string key).toList ++ []), ' ' :: (written ++ behind), by simp, ?_, ?_⟩
  · exact ⟨before, _, [], rfl, isBefore, spellsString_string key, blank_nil⟩
  · exact ⟨[' '], written, behind, rfl, .cons rfl blank_nil, spelled, isBehind⟩

mutual

theorem spells_value (level : Nat) : ∀ content : Value,
    Spells .refused content.toJson (value level content).toList
  | .scalar text => spellsString_string text
  | .group [] => ⟨[], by simp [value, members, braces], blank_nil⟩
  | .group (entry :: rest) => by
    refine ⟨_, ?_, spells_members (level + 1) (entry :: rest) (List.cons_ne_nil _ _)
      (blank_newline_indent (level + 1)) (blank_newline_indent level)⟩
    rw [value, braces, if_neg (by simp [members])]
    simp

theorem spells_members (level : Nat) {behind : List Char} :
    ∀ (entries : List (String × Value)) {before : List Char}, entries ≠ [] → Blank before → Blank behind →
      SpellsMembers .refused (fun _ => .refused) (Tree.toMembers entries)
        (before ++ ((String.intercalate (",\n" ++ indent level) (members level entries)).toList ++ behind))
  | [], _, filled, _, _ => absurd rfl filled
  | [(key, content)], before, _, isBefore, isBehind => by
    have line := spellsMember_line key isBefore isBehind (spells_value level content)
    simpa [Tree.toMembers, members, SpellsMembers] using line
  | (key, content) :: next :: rest, before, _, isBefore, isBehind => by
    have line := spellsMember_line key isBefore blank_nil (spells_value level content)
    have lines := spells_members level (next :: rest) (List.cons_ne_nil _ _) (blank_newline_indent level) isBehind
    refine ⟨_, _, ?_, line, lines⟩
    simp [members, String.intercalate_cons_cons]

end

/-! ## Whole trees -/

theorem isTextOf_render (tree : Tree) : IsTextOf tree.toJson (render tree) :=
  ⟨[], _, [], by simp [render, value], blank_nil, spells_value 0 (.group tree), blank_nil⟩

end JsonText

/-- What is written for a tree is a strict JSON text. It stands for the value of the tree and for no other one,
and reading it gives back the tree. -/
theorem parse?_render (tree : Tree) :
    Json.IsTextOf tree.toJson (JsonText.render tree) ∧
      (∀ value, Json.IsTextOf value (JsonText.render tree) → value = tree.toJson) ∧
      Json.parse? (JsonText.render tree) = some tree.toJson ∧
      (Json.parse? (JsonText.render tree)).bind Json.toTree? = some tree := by
  have written := JsonText.isTextOf_render tree
  have parsed := Json.parse?_eq_some_iff.2 written
  refine ⟨written, fun value other => Json.spaced_spells_unique other written, parsed, ?_⟩
  rw [parsed]
  exact toEntries?_toMembers tree

end Varsheet
