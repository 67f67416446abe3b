import Varsheet.Document.Entry
import Varsheet.Text.Lines
import Varsheet.Tree.Basic

/-!
# Blocks of a sheet

Lines nest by their depth. A block at a level takes every entry that is at least that deep, up to the
first one that is not; an entry without text opens a block one level further in. An entry that is
deeper than its block simply joins it.

* `Line` : a line with its number
* `Reading` : what reading a block leaves and gives
* `readBlock` : reads one block
-/

namespace Varsheet.Document

/-- A line of a sheet. Numbers start at one. -/
structure Line where
  number : Nat
  text : List Char
deriving DecidableEq, Repr

/-- The lines of a text, numbered. -/
def Line.ofText (text : String) : List Line :=
  ((Text.lines text.toList).zipIdx 1).map fun line => ⟨line.2, line.1⟩

/-- What reading a block comes to: the lines that are left, and the tree or the line that could not
be read. After a failure the lines that are left start with that line. -/
structure Reading (lines : List Line) where
  outcome : Except Line Tree
  rest : List Line
  isSuffix : rest <:+ lines

/-- The same reading, seen from further up in the sheet. -/
def Reading.extend {lines whole : List Line} (reading : Reading lines) (h : lines <:+ whole) :
    Reading whole :=
  ⟨reading.outcome, reading.rest, reading.isSuffix.trans h⟩

/-- Reads the block at `level` into `tree`, and with it all blocks inside. -/
def readBlock (tab : List Char) (level : Nat) (tree : Tree) (lines : List Line) : Reading lines :=
  match lines with
  | [] => ⟨.ok tree, [], List.suffix_rfl⟩
  | line :: rest =>
    match classify tab line.text with
    | .passed => (readBlock tab level tree rest).extend (List.suffix_cons _ _)
    | .malformed => ⟨.error line, line :: rest, List.suffix_rfl⟩
    | .entry entry =>
      if entry.depth < level then ⟨.ok tree, line :: rest, List.suffix_rfl⟩
      else if entry.value = "" then
        match readBlock tab (level + 1) [] rest with
        | ⟨.error bad, left, h⟩ => ⟨.error bad, left, h.trans (List.suffix_cons _ _)⟩
        | ⟨.ok children, left, h⟩ =>
          (readBlock tab level (tree.insert entry.key (.group children)) left).extend
            (h.trans (List.suffix_cons _ _))
      else
        (readBlock tab level (tree.insert entry.key (.scalar entry.value)) rest).extend
          (List.suffix_cons _ _)
termination_by lines.length
decreasing_by
  · simp
  · simp
  · have := h.length_le
    simp only [List.length_cons]
    omega
  · simp

/-! ## One line at a time -/

/-- The two results of a reading, without the bound. -/
def Reading.pair {lines : List Line} (reading : Reading lines) : Except Line Tree × List Line :=
  (reading.outcome, reading.rest)

@[simp] theorem Reading.pair_extend {lines whole : List Line} (reading : Reading lines)
    (h : lines <:+ whole) : (reading.extend h).pair = reading.pair := rfl

variable {tab : List Char} {level : Nat} {tree : Tree} {line : Line} {rest : List Line}

@[simp] theorem readBlock_nil : (readBlock tab level tree []).pair = (.ok tree, []) := by
  rw [readBlock]
  rfl

theorem readBlock_passed (h : classify tab line.text = .passed) :
    (readBlock tab level tree (line :: rest)).pair = (readBlock tab level tree rest).pair := by
  rw [readBlock, h]
  rfl

theorem readBlock_malformed (h : classify tab line.text = .malformed) :
    (readBlock tab level tree (line :: rest)).pair = (.error line, line :: rest) := by
  rw [readBlock, h]
  rfl

/-- An entry outside of the block ends it and stays. -/
theorem readBlock_shallow {entry : Entry} (h : classify tab line.text = .entry entry)
    (outside : entry.depth < level) :
    (readBlock tab level tree (line :: rest)).pair = (.ok tree, line :: rest) := by
  rw [readBlock, h]
  simp only [outside, if_true]
  rfl

theorem readBlock_scalar {entry : Entry} (h : classify tab line.text = .entry entry)
    (inside : level ≤ entry.depth) (filled : entry.value ≠ "") :
    (readBlock tab level tree (line :: rest)).pair =
      (readBlock tab level (tree.insert entry.key (.scalar entry.value)) rest).pair := by
  rw [readBlock, h]
  simp only [Nat.not_lt.2 inside, filled, if_false]
  rfl

/-- An entry without text takes the block that follows it. -/
theorem readBlock_group {entry : Entry} {children : Tree} {left : List Line}
    (h : classify tab line.text = .entry entry) (inside : level ≤ entry.depth)
    (bare : entry.value = "")
    (inner : (readBlock tab (level + 1) [] rest).pair = (.ok children, left)) :
    (readBlock tab level tree (line :: rest)).pair =
      (readBlock tab level (tree.insert entry.key (.group children)) left).pair := by
  rw [readBlock, h]
  simp only [Nat.not_lt.2 inside, bare, if_false, if_true]
  generalize readBlock tab (level + 1) [] rest = reading at inner
  obtain ⟨outcome, after, bound⟩ := reading
  cases inner
  rfl

/-- A line that cannot be read ends all the blocks around it. -/
theorem readBlock_group_error {entry : Entry} {bad : Line} {left : List Line}
    (h : classify tab line.text = .entry entry) (inside : level ≤ entry.depth)
    (bare : entry.value = "")
    (inner : (readBlock tab (level + 1) [] rest).pair = (.error bad, left)) :
    (readBlock tab level tree (line :: rest)).pair = (.error bad, left) := by
  rw [readBlock, h]
  simp only [Nat.not_lt.2 inside, bare, if_false, if_true]
  generalize readBlock tab (level + 1) [] rest = reading at inner
  obtain ⟨outcome, after, bound⟩ := reading
  cases inner
  rfl

end Varsheet.Document
