import Varsheet.Document.Reader

/-!
# What a block can do with its lines

`Reads` says, one rule for each kind of line, what reading a block comes to. It is the graph of
`readBlock`, and an induction over it follows the blocks as they are entered and left.

* `Reads` : the rules
* `reads_readBlock`, `Reads.eq_readBlock` : they say what `readBlock` does
* `result_parseWith` : reading a sheet is reading the block at the root
-/

namespace Varsheet.Document

/-- `Reads tab level tree lines outcome left`: reading `lines` into `tree` as the block at `level` comes
to `outcome` and leaves the lines `left`. -/
inductive Reads (tab : List Char) :
    Nat → Tree → List Line → Except Line Tree → List Line → Prop where
  /-- No lines are left. -/
  | nothing {level : Nat} {tree : Tree} : Reads tab level tree [] (.ok tree) []
  | passed {level : Nat} {tree : Tree} {line : Line} {rest left : List Line}
      {outcome : Except Line Tree} (kind : classify tab line.text = .passed)
      (next : Reads tab level tree rest outcome left) :
      Reads tab level tree (line :: rest) outcome left
  | malformed {level : Nat} {tree : Tree} {line : Line} {rest : List Line}
      (kind : classify tab line.text = .malformed) :
      Reads tab level tree (line :: rest) (.error line) (line :: rest)
  /-- An entry outside of the block ends it. -/
  | shallow {level : Nat} {tree : Tree} {line : Line} {rest : List Line} {entry : Entry}
      (kind : classify tab line.text = .entry entry) (outside : entry.depth < level) :
      Reads tab level tree (line :: rest) (.ok tree) (line :: rest)
  | scalar {level : Nat} {tree : Tree} {line : Line} {rest left : List Line} {entry : Entry}
      {outcome : Except Line Tree} (kind : classify tab line.text = .entry entry)
      (inside : level ≤ entry.depth) (filled : entry.value ≠ "")
      (next : Reads tab level (tree.insert entry.key (.scalar entry.value)) rest outcome left) :
      Reads tab level tree (line :: rest) outcome left
  /-- An entry without text takes the block behind it, and the block around it goes on from there. -/
  | group {level : Nat} {tree children : Tree} {line : Line} {rest middle left : List Line}
      {entry : Entry} {outcome : Except Line Tree} (kind : classify tab line.text = .entry entry)
      (inside : level ≤ entry.depth) (bare : entry.value = "")
      (inner : Reads tab (level + 1) [] rest (.ok children) middle)
      (next : Reads tab level (tree.insert entry.key (.group children)) middle outcome left) :
      Reads tab level tree (line :: rest) outcome left
  /-- A failure inside of a block is a failure of the block around it. -/
  | failed {level : Nat} {tree : Tree} {line bad : Line} {rest left : List Line} {entry : Entry}
      (kind : classify tab line.text = .entry entry) (inside : level ≤ entry.depth)
      (bare : entry.value = "") (inner : Reads tab (level + 1) [] rest (.error bad) left) :
      Reads tab level tree (line :: rest) (.error bad) left

variable {tab : List Char}

theorem Reads.eq_readBlock {level : Nat} {tree : Tree} {lines left : List Line}
    {outcome : Except Line Tree} (reads : Reads tab level tree lines outcome left) :
    (readBlock tab level tree lines).pair = (outcome, left) := by
  induction reads with
  | nothing => exact readBlock_nil
  | passed kind _ ih => rw [readBlock_passed kind, ih]
  | malformed kind => exact readBlock_malformed kind
  | shallow kind outside => exact readBlock_shallow kind outside
  | scalar kind inside filled _ ih => rw [readBlock_scalar kind inside filled, ih]
  | group kind inside bare _ _ ihInner ihNext => rw [readBlock_group kind inside bare ihInner, ihNext]
  | failed kind inside bare _ ih => exact readBlock_group_error kind inside bare ih

theorem exists_reads (tab : List Char) (lines : List Line) (level : Nat) (tree : Tree) :
    ∃ outcome left, Reads tab level tree lines outcome left := by
  -- the block behind an inner one starts at some later line, not at the next one
  induction h : lines.length using Nat.strongRecOn generalizing lines level tree with
  | ind size ih =>
    cases lines with
    | nil => exact ⟨_, _, .nothing⟩
    | cons line rest =>
      have shorter : rest.length < size := by
        rw [← h]
        exact Nat.lt_succ_self _
      cases kind : classify tab line.text with
      | passed =>
        obtain ⟨outcome, left, next⟩ := ih _ shorter rest level tree rfl
        exact ⟨outcome, left, .passed kind next⟩
      | malformed => exact ⟨_, _, .malformed kind⟩
      | entry entry =>
        by_cases outside : entry.depth < level
        · exact ⟨_, _, .shallow kind outside⟩
        have inside := Nat.not_lt.1 outside
        by_cases bare : entry.value = ""
        · obtain ⟨outcome, middle, inner⟩ := ih _ shorter rest (level + 1) [] rfl
          cases outcome with
          | error bad => exact ⟨_, _, .failed kind inside bare inner⟩
          | ok children =>
            -- the block around goes on behind the inner one, which has only taken lines away
            have remaining : middle.length ≤ rest.length := by
              have := (readBlock tab (level + 1) [] rest).isSuffix.length_le
              rwa [show (readBlock tab (level + 1) [] rest).rest = middle from
                congrArg Prod.snd inner.eq_readBlock] at this
            obtain ⟨outcome, left, next⟩ := ih _ (Nat.lt_of_le_of_lt remaining shorter) middle level
              (tree.insert entry.key (.group children)) rfl
            exact ⟨outcome, left, .group kind inside bare inner next⟩
        · obtain ⟨outcome, left, next⟩ := ih _ shorter rest level
            (tree.insert entry.key (.scalar entry.value)) rfl
          exact ⟨outcome, left, .scalar kind inside bare next⟩

theorem reads_readBlock (tab : List Char) (level : Nat) (tree : Tree) (lines : List Line) :
    Reads tab level tree lines (readBlock tab level tree lines).outcome
      (readBlock tab level tree lines).rest := by
  obtain ⟨outcome, left, reads⟩ := exists_reads tab lines level tree
  obtain ⟨rfl, rfl⟩ := Prod.mk.inj reads.eq_readBlock
  exact reads

/-! ## Sheets -/

/-- Lines with their numbers, from `start` on. -/
def numbered (start : Nat) (texts : List (List Char)) : List Line :=
  (texts.zipIdx start).map fun line => ⟨line.2, line.1⟩

theorem numbered_append (start : Nat) (front back : List (List Char)) :
    numbered start (front ++ back) = numbered start front ++ numbered (start + front.length) back := by
  simp [numbered, List.zipIdx_append]

@[simp] theorem numbered_nil (start : Nat) : numbered start [] = [] := rfl

/-- The fault that a line without its colon is reported as. -/
def Line.fault (line : Line) : Fault :=
  .missingColon line.number (String.ofList line.text)

theorem result_parseWith (tab text : String) :
    (parseWith tab text).result =
      (readBlock tab.toList 0 [] (Line.ofText text)).outcome.mapError Line.fault := by
  simp only [parseWith, Reader.readTree, Reader.withTab, Reader.ofText]
  cases (readBlock tab.toList 0 [] (Line.ofText text)).outcome <;> rfl

theorem reads_of_parseWith {tab text : String} {tree : Tree}
    (parsed : (parseWith tab text).result = .ok tree) :
    ∃ left, Reads tab.toList 0 [] (Line.ofText text) (.ok tree) left := by
  have reads := reads_readBlock tab.toList 0 [] (Line.ofText text)
  rw [result_parseWith] at parsed
  cases outcome : (readBlock tab.toList 0 [] (Line.ofText text)).outcome with
  | error line => rw [outcome] at parsed; cases parsed
  | ok found =>
    rw [outcome] at parsed reads
    cases parsed
    exact ⟨_, reads⟩

end Varsheet.Document
