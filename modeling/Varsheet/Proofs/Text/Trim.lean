import Mathlib.Data.List.DropRight
import Varsheet.Text.Blank

/-!
# Texts without blanks at their ends

* `BareStart`, `BareEnd` : a text does not start, or does not end, with a blank
* `trim_eq_self_iff` : cutting blanks off changes nothing exactly if both ends are bare
* `trim_trim` : cutting blanks off twice is cutting them off once
* `trim_append_of_blank`, `trim_append_of_blank_behind` : blanks in front or behind do not matter
* `mem_trim_of_not_blank` : no other character is lost
-/

namespace Varsheet.Text

/-- The text does not start with a blank. -/
def BareStart (text : List Char) : Prop :=
  ∀ c ∈ text.head?, isBlank c = false

/-- The text does not end with a blank. -/
def BareEnd (text : List Char) : Prop :=
  ∀ c ∈ text.getLast?, isBlank c = false

variable {text front behind : List Char} {c : Char}

theorem trimLeft_of_bareStart (h : BareStart text) : trimLeft text = text := by
  cases text with
  | nil => rfl
  | cons c rest => exact List.dropWhile_cons_of_neg (by simp [h c rfl])

theorem trimRight_of_bareEnd (h : BareEnd text) : trimRight text = text := by
  refine List.rdropWhile_eq_self_iff.2 fun filled => ?_
  rw [h _ (List.getLast?_eq_some_getLast filled)]
  exact Bool.false_ne_true

theorem bareStart_trimLeft (text : List Char) : BareStart (trimLeft text) := by
  intro c h
  have := List.head?_dropWhile_not isBlank text
  rw [show (text.dropWhile isBlank).head? = some c from h] at this
  exact this

theorem bareEnd_trimRight (text : List Char) : BareEnd (trimRight text) := by
  intro c h
  rw [trimRight, List.getLast?_reverse] at h
  exact bareStart_trimLeft text.reverse c h

theorem head?_of_head?_trimRight (first : (trimRight text).head? = some c) : text.head? = some c := by
  obtain ⟨behind, parts⟩ : trimRight text <+: text := List.rdropWhile_prefix isBlank text
  rw [← parts, List.head?_append, first]
  rfl

theorem bareStart_trimRight (h : BareStart text) : BareStart (trimRight text) := by
  intro c member
  exact h c (head?_of_head?_trimRight member)

theorem bare_trim (text : List Char) : BareStart (trim text) ∧ BareEnd (trim text) :=
  ⟨bareStart_trimRight (bareStart_trimLeft text), bareEnd_trimRight _⟩

theorem trim_eq_self_iff : trim text = text ↔ BareStart text ∧ BareEnd text := by
  constructor
  · intro same
    rw [← same]
    exact bare_trim text
  · rintro ⟨start, stop⟩
    rw [trim, trimLeft_of_bareStart start, trimRight_of_bareEnd stop]

theorem trim_trim (text : List Char) : trim (trim text) = trim text :=
  trim_eq_self_iff.2 (bare_trim text)

theorem BareStart.of_append (bare : BareStart (front ++ text)) : BareStart front := by
  intro c first
  refine bare c ?_
  rw [List.head?_append, show front.head? = some c from first]
  rfl

theorem head?_of_head?_trim (bare : BareStart text) (first : (trim text).head? = some c) :
    text.head? = some c := by
  rw [trim, trimLeft_of_bareStart bare] at first
  exact head?_of_head?_trimRight first

theorem trim_append_of_blank (blank : ∀ c ∈ front, isBlank c = true) :
    trim (front ++ text) = trim text := by
  rw [trim, trimLeft, List.dropWhile_append_of_pos blank]
  rfl

theorem trimRight_append_of_blank (blank : ∀ c ∈ behind, isBlank c = true) :
    trimRight (text ++ behind) = trimRight text := by
  rw [trimRight, List.reverse_append, List.dropWhile_append_of_pos]
  · rfl
  · simpa using blank

theorem trim_append_of_blank_behind (blank : ∀ c ∈ behind, isBlank c = true) :
    trim (text ++ behind) = trim text := by
  have nothing : behind.dropWhile isBlank = [] := List.dropWhile_eq_nil_iff.2 blank
  rw [trim, trimLeft, List.dropWhile_append, nothing]
  split
  · rename_i empty
    rw [trim, trimLeft, List.isEmpty_iff.1 empty]
  · exact trimRight_append_of_blank blank

theorem mem_of_mem_trim (h : c ∈ trim text) : c ∈ text :=
  (List.dropWhile_sublist isBlank).subset ((List.rdropWhile_prefix isBlank _).subset h)

theorem mem_trimLeft_of_not_blank (h : c ∈ text) (solid : isBlank c = false) :
    c ∈ trimLeft text := by
  rw [← List.takeWhile_append_dropWhile (p := isBlank) (l := text)] at h
  -- only blanks are in the part that is dropped
  obtain dropped | kept := List.mem_append.1 h
  · rw [List.mem_takeWhile_imp dropped] at solid
    cases solid
  · exact kept

theorem mem_trim_of_not_blank (h : c ∈ text) (solid : isBlank c = false) : c ∈ trim text := by
  rw [trim, trimRight, List.mem_reverse]
  exact mem_trimLeft_of_not_blank (List.mem_reverse.2 (mem_trimLeft_of_not_blank h solid)) solid

theorem exists_solid_of_trim_ne_nil (filled : trim text ≠ []) : ∃ c ∈ text, isBlank c = false := by
  obtain ⟨c, rest, parts⟩ := List.exists_cons_of_ne_nil filled
  refine ⟨c, mem_of_mem_trim (by rw [parts]; exact List.mem_cons_self), ?_⟩
  exact (bare_trim text).1 c (by rw [parts]; rfl)

end Varsheet.Text
