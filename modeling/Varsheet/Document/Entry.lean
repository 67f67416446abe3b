import Varsheet.Text.Blank

/-!
# Entries of a sheet

What a single line says. A line is passed over when it is blank or a comment; any other line needs a
colon, which divides the name of an entry from its text.

* `depth` : how many units of indentation a line starts with
* `Entry` : the depth, name and text of a line
* `classify` : what a line is
-/

namespace Varsheet.Document

/-- One unit of indentation taken off the front of a line: a tab character, or else the text
`tab`, unless that is empty. -/
def stripUnit? (tab : List Char) (line : List Char) : Option (List Char) :=
  match line with
  | '\t' :: rest => some rest
  | _ => if tab.isEmpty then none else tab.isPrefixOf? line

theorem length_isPrefixOf? : ∀ {front line rest : List Char}, front.isPrefixOf? line = some rest →
    line.length = front.length + rest.length
  | [], line, rest, h => by
    have same : some line = some rest := h
    cases same
    simp
  | c :: front, d :: line, rest, h => by
    have further : (if c == d then front.isPrefixOf? line else none) = some rest := h
    split at further
    · have := length_isPrefixOf? further
      simp only [List.length_cons]
      omega
    · simp at further

/-- A unit of indentation is never empty. -/
theorem length_stripUnit? {tab line rest : List Char} (h : stripUnit? tab line = some rest) :
    rest.length < line.length := by
  unfold stripUnit? at h
  split at h
  · simp only [Option.some.injEq] at h
    subst h
    simp
  · split at h
    · simp at h
    · rename_i hne
      have := length_isPrefixOf? h
      have : tab.length ≠ 0 := by simpa using hne
      omega

/-- How many units of indentation a line starts with. A tab character counts as one unit, as does
each occurrence of `tab`. -/
def depth (tab : List Char) (line : List Char) : Nat :=
  match h : stripUnit? tab line with
  | some rest => depth tab rest + 1
  | none => 0
termination_by line.length
decreasing_by exact length_stripUnit? h

theorem depth_of_stripUnit?_eq_some {tab line rest : List Char}
    (h : stripUnit? tab line = some rest) : depth tab line = depth tab rest + 1 := by
  rw [depth]
  split
  · rename_i heq
    rw [h] at heq
    cases heq
    rfl
  · rename_i heq
    rw [h] at heq
    cases heq

theorem depth_of_stripUnit?_eq_none {tab line : List Char} (h : stripUnit? tab line = none) :
    depth tab line = 0 := by
  rw [depth]
  split
  · rename_i heq
    rw [h] at heq
    cases heq
  · rfl

/-- What an entry line says. -/
structure Entry where
  depth : Nat
  key : String
  value : String
deriving DecidableEq, Repr

/-- What a line is. -/
inductive LineKind where
  /-- A blank line or a comment. -/
  | passed
  /-- A line that lacks its colon. -/
  | malformed
  | entry (entry : Entry)
deriving DecidableEq, Repr

/-- The parts of a text before and after its first colon. -/
def cutColon? : List Char → Option (List Char × List Char)
  | [] => none
  | ':' :: rest => some ([], rest)
  | c :: rest => (cutColon? rest).map fun parts => (c :: parts.1, parts.2)

/-- What a line is when `tab` is the unit of indentation. -/
def classify (tab : List Char) (line : List Char) : LineKind :=
  match Text.trim line with
  | [] => .passed
  | '#' :: _ => .passed
  | text =>
    match cutColon? text with
    | none => .malformed
    | some (key, value) =>
      .entry ⟨depth tab line, String.ofList (Text.trim key), String.ofList (Text.trim value)⟩

end Varsheet.Document
