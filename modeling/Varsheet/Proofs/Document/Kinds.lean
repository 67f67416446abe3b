import Varsheet.Document.Entry
import Varsheet.Proofs.Text.Trim

/-!
# Kinds of lines

Which kind a line is of, said about the line itself. Only the depth of an entry depends on the unit of
indentation; whether a line is an entry at all does not.

* `LacksColon` : the line is neither blank nor a comment and has no colon
* `classify_eq_malformed_iff` : exactly such a line cannot be read
* `classify_of_trim_eq` : a line that consists of a name, a colon and a text is their entry
* `exists_parts_of_classify` : and no other line is
-/

namespace Varsheet.Document

/-- The line is neither blank nor a comment and has no colon. -/
def LacksColon (line : List Char) : Prop :=
  Text.trim line ≠ [] ∧ (Text.trim line).head? ≠ some '#' ∧ ':' ∉ line

instance (line : List Char) : Decidable (LacksColon line) :=
  inferInstanceAs (Decidable (_ ∧ _ ∧ _))

/-! ## The first colon -/

theorem cutColon?_cons_of_ne {c : Char} (rest : List Char) (h : c ≠ ':') :
    cutColon? (c :: rest) = (cutColon? rest).map fun parts => (c :: parts.1, parts.2) := by
  rw [cutColon?]
  exact h

theorem cutColon?_append {key : List Char} (rest : List Char) (h : ':' ∉ key) :
    cutColon? (key ++ ':' :: rest) = some (key, rest) := by
  induction key with
  | nil => rfl
  | cons c key ih =>
    rw [List.mem_cons, not_or] at h
    rw [List.cons_append, cutColon?_cons_of_ne _ (Ne.symm h.1), ih h.2, Option.map_some]

theorem cutColon?_eq_none_iff {text : List Char} : cutColon? text = none ↔ ':' ∉ text := by
  induction text with
  | nil => simp [cutColon?]
  | cons c rest ih =>
    by_cases h : c = ':'
    · simp [h, cutColon?]
    · rw [cutColon?_cons_of_ne rest h, Option.map_eq_none_iff, ih, List.mem_cons, not_or]
      exact ⟨fun absent => ⟨Ne.symm h, absent⟩, fun absent => absent.2⟩

theorem eq_append_of_cutColon? {text key value : List Char} (cut : cutColon? text = some (key, value)) :
    text = key ++ ':' :: value ∧ ':' ∉ key := by
  induction text generalizing key with
  | nil => cases cut
  | cons c rest ih =>
    by_cases h : c = ':'
    · subst h
      cases cut
      exact ⟨rfl, List.not_mem_nil⟩
    · rw [cutColon?_cons_of_ne rest h] at cut
      obtain ⟨⟨front, back⟩, found, same⟩ := Option.map_eq_some_iff.1 cut
      cases same
      obtain ⟨parts, absent⟩ := ih found
      exact ⟨by rw [parts, List.cons_append], by simp [absent, Ne.symm h]⟩

/-! ## Lines -/

variable {tab line : List Char}

theorem colon_mem_trim_iff : ':' ∈ Text.trim line ↔ ':' ∈ line :=
  ⟨Text.mem_of_mem_trim, fun h => Text.mem_trim_of_not_blank h rfl⟩

/-- What a line is that is neither blank nor a comment. -/
theorem classify_of_solid (filled : Text.trim line ≠ []) (plain : (Text.trim line).head? ≠ some '#') :
    classify tab line =
      match cutColon? (Text.trim line) with
      | none => .malformed
      | some (key, value) =>
        .entry ⟨depth tab line, String.ofList (Text.trim key), String.ofList (Text.trim value)⟩ := by
  unfold classify
  split
  · contradiction
  · rename_i text h
    exact absurd (by rw [h]; rfl) plain
  · rfl

theorem classify_eq_malformed_iff (tab line : List Char) :
    classify tab line = .malformed ↔ LacksColon line := by
  by_cases filled : Text.trim line = []
  · simp [classify, LacksColon, filled]
  by_cases plain : (Text.trim line).head? = some '#'
  · obtain ⟨rest, h⟩ := List.head?_eq_some_iff.1 plain
    simp [classify, LacksColon, h]
  rw [classify_of_solid filled plain]
  have absent : cutColon? (Text.trim line) = none ↔ ':' ∉ line :=
    cutColon?_eq_none_iff.trans (not_congr colon_mem_trim_iff)
  cases cut : cutColon? (Text.trim line) with
  | none => simp [LacksColon, filled, plain, absent.1 cut]
  | some parts =>
    have present : ':' ∈ line := by
      by_contra missing
      rw [absent.2 missing] at cut
      cases cut
    simp [LacksColon, present]

theorem classify_of_trim_eq {key value : List Char} (parts : Text.trim line = key ++ ':' :: value)
    (noColon : ':' ∉ key) (noComment : key.head? ≠ some '#') :
    classify tab line =
      .entry ⟨depth tab line, String.ofList (Text.trim key), String.ofList (Text.trim value)⟩ := by
  rw [classify_of_solid, parts, cutColon?_append value noColon]
  · simp [parts]
  · rw [parts]
    -- without a name the colon stands first
    cases key with
    | nil => simp
    | cons c rest => simpa using noComment

/-- An entry line consists of a name, a colon and a text, apart from blanks. -/
theorem exists_parts_of_classify {entry : Entry} (kind : classify tab line = .entry entry) :
    ∃ key value, Text.trim line = key ++ ':' :: value ∧ ':' ∉ key ∧ key.head? ≠ some '#' ∧
      entry = ⟨depth tab line, String.ofList (Text.trim key), String.ofList (Text.trim value)⟩ := by
  by_cases filled : Text.trim line = []
  · simp [classify, filled] at kind
  by_cases plain : (Text.trim line).head? = some '#'
  · obtain ⟨rest, h⟩ := List.head?_eq_some_iff.1 plain
    simp [classify, h] at kind
  rw [classify_of_solid filled plain] at kind
  cases cut : cutColon? (Text.trim line) with
  | none => rw [cut] at kind; cases kind
  | some parts =>
    obtain ⟨key, value⟩ := parts
    rw [cut] at kind
    obtain ⟨whole, noColon⟩ := eq_append_of_cutColon? cut
    refine ⟨key, value, whole, noColon, fun comment => plain ?_, (LineKind.entry.inj kind).symm⟩
    rw [whole, List.head?_append, comment]
    rfl

end Varsheet.Document
