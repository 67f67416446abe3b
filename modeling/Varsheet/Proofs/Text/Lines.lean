import Varsheet.Text.Lines

/-!
# Lines that are put together

* `splitAt_eq_splitOn` : cutting a text is what the library calls splitting
* `oneLine_of_mem_lines` : no line has an end of line in it
* `unifyEndings_of_no_return` : without carriage returns there is nothing to unify
* `lines_intercalate` : lines joined by line feeds are cut into the same lines again
* `Unbroken`, `splitOn_intercalate_newline` : the same where carriage returns are characters like any other
* `append_cons_inj_of_not_mem` : the first occurrence of a character cuts a text in one way
-/

namespace Varsheet.Text

/-- The text has no end of line in it. -/
def OneLine (text : List Char) : Prop :=
  '\r' ∉ text ∧ '\n' ∉ text

instance (text : List Char) : Decidable (OneLine text) :=
  inferInstanceAs (Decidable (_ ∧ _))

theorem OneLine.append {front back : List Char} (first : OneLine front) (second : OneLine back) :
    OneLine (front ++ back) :=
  ⟨by simp [first.1, second.1], by simp [first.2, second.2]⟩

theorem OneLine.cons {c : Char} {text : List Char} (first : OneLine [c]) (rest : OneLine text) :
    OneLine (c :: text) :=
  first.append rest

theorem OneLine.of_subset {part text : List Char} (whole : OneLine text) (inside : part ⊆ text) :
    OneLine part :=
  ⟨fun member => whole.1 (inside member), fun member => whole.2 (inside member)⟩

theorem append_cons_inj_of_not_mem {c : Char} {front back front' back' : List Char}
    (h : c ∉ front) (h' : c ∉ front') (same : front ++ c :: back = front' ++ c :: back') :
    front = front' ∧ back = back' := by
  induction front generalizing front' with
  | nil =>
    cases front' with
    | nil => exact ⟨rfl, (List.cons.inj same).2⟩
    | cons d front' => exact absurd (List.cons.inj same).1 fun e => h' (by simp [e])
  | cons d front ih =>
    cases front' with
    | nil => exact absurd (List.cons.inj same).1 fun e => h (by simp [e])
    | cons d' front' =>
      rw [List.mem_cons, not_or] at h h'
      obtain ⟨rfl, tails⟩ := List.cons.inj same
      obtain ⟨rfl, rfl⟩ := ih h.2 h'.2 tails
      exact ⟨rfl, rfl⟩

theorem splitAt_eq_splitOn (sep : Char) (text : List Char) :
    splitAt sep text = text.splitOn sep := by
  induction text with
  | nil => rfl
  | cons c rest ih =>
    rw [splitAt, List.splitOn_cons_eq_if_modifyHead, ih]
    by_cases h : c = sep
    · simp [h]
    · simp only [h, if_false, beq_iff_eq]
      cases split : rest.splitOn sep with
      | nil => exact absurd split (List.splitOn_ne_nil sep rest)
      | cons piece pieces => rfl

theorem of_mem_splitAt {sep : Char} {text piece : List Char} (member : piece ∈ splitAt sep text) :
    sep ∉ piece ∧ piece ⊆ text := by
  induction text generalizing piece with
  | nil =>
    rw [splitAt, List.mem_singleton] at member
    simp [member]
  | cons c rest ih =>
    rw [splitAt] at member
    split at member
    · cases member with
      | head => simp
      | tail _ later =>
        obtain ⟨absent, inside⟩ := ih later
        exact ⟨absent, List.subset_cons_of_subset c inside⟩
    · rename_i other
      split at member
      · rename_i empty
        exact absurd empty (splitAt_ne_nil sep rest)
      · rename_i first later pieces
        cases member with
        | head =>
          -- the first piece goes on with a character that is no separator
          obtain ⟨absent, inside⟩ := ih (pieces ▸ List.mem_cons_self)
          exact ⟨by simp [absent, Ne.symm other], List.cons_subset_cons c inside⟩
        | tail _ later =>
          obtain ⟨absent, inside⟩ := ih (pieces ▸ List.mem_cons_of_mem _ later)
          exact ⟨absent, List.subset_cons_of_subset c inside⟩

theorem return_not_mem_unifyEndings (text : List Char) : '\r' ∉ unifyEndings text := by
  intro member
  obtain ⟨c, -, replaced⟩ := List.mem_map.1 member
  split at replaced
  · cases replaced
  · contradiction

theorem oneLine_of_mem_lines {text line : List Char} (member : line ∈ lines text) : OneLine line := by
  obtain ⟨noFeed, inside⟩ := of_mem_splitAt member
  exact ⟨fun found => return_not_mem_unifyEndings text (inside found), noFeed⟩

theorem joinReturns_of_no_return {text : List Char} (h : '\r' ∉ text) : joinReturns text = text := by
  fun_induction joinReturns text with
  | case1 rest ih => simp at h
  | case2 c rest _ ih => rw [ih fun member => h (List.mem_cons_of_mem c member)]
  | case3 => rfl

theorem unifyEndings_of_no_return {text : List Char} (h : '\r' ∉ text) : unifyEndings text = text := by
  have same : ∀ c ∈ text, (if c = '\r' then '\n' else c) = c :=
    fun c member => if_neg fun (e : c = '\r') => h (e ▸ member)
  rw [unifyEndings, joinReturns_of_no_return h, List.map_congr_left same, List.map_id']

theorem not_mem_intercalate {c sep : Char} {pieces : List (List Char)}
    (absent : ∀ piece ∈ pieces, c ∉ piece) (h : c ≠ sep) : c ∉ [sep].intercalate pieces := by
  induction pieces with
  | nil => exact List.not_mem_nil
  | cons piece rest ih =>
    cases rest with
    | nil => simpa using absent
    | cons next others =>
      rw [List.intercalate_cons_cons]
      have inRest := ih fun piece member => absent piece (List.mem_cons_of_mem _ member)
      simp only [List.mem_append, List.mem_singleton, not_or]
      exact ⟨⟨absent piece List.mem_cons_self, h⟩, inRest⟩

theorem lines_intercalate {pieces : List (List Char)} (someLine : pieces ≠ [])
    (oneLine : ∀ piece ∈ pieces, OneLine piece) : lines (['\n'].intercalate pieces) = pieces := by
  have noReturn : '\r' ∉ ['\n'].intercalate pieces :=
    not_mem_intercalate (fun piece member => (oneLine piece member).1) (by decide)
  rw [lines, unifyEndings_of_no_return noReturn, splitAt_eq_splitOn]
  exact List.splitOn_intercalate '\n' (fun piece member => (oneLine piece member).2) someLine

/-! ## Texts without a line feed -/

/-- The text has no line feed in it. It may have a carriage return. -/
def Unbroken (text : String) : Prop :=
  '\n' ∉ text.toList

instance (text : String) : Decidable (Unbroken text) :=
  inferInstanceAs (Decidable (_ ∉ _))

@[simp] theorem unbroken_append {s t : String} : Unbroken (s ++ t) ↔ Unbroken s ∧ Unbroken t := by
  simp [Unbroken]

theorem splitOn_intercalate_newline {lines : List String} (someLine : lines ≠ [])
    (unbroken : ∀ line ∈ lines, Unbroken line) :
    (String.intercalate "\n" lines).toList.splitOn '\n' = lines.map String.toList := by
  rw [String.toList_intercalate]
  apply List.splitOn_intercalate
  · simpa [Unbroken] using unbroken
  · simpa using someLine

end Varsheet.Text
