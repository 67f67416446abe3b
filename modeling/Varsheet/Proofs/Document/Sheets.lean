import Varsheet.Proofs.Compile.Failure
import Varsheet.Proofs.Document.Nesting
import Varsheet.Proofs.Text.Lines

/-!
# Sheets that are put together from lines

A sheet can be given as a list of lines. What reading it comes to is then said about the list: the first line
that lacks its colon is a place where the list is cut in two, and without such a line the tree depends on the
entries of the list alone.

* `sheet` : lines as one sheet
* `outcome_root_eq_ok_iff` : when the block at the root has a tree, and which one
* `find?_numbered_eq_some_iff` : the first line that lacks its colon, as a cut
* `parseWith_sheet_eq_ok_iff`, `parseWith_sheet_eq_error_iff` : both for a sheet
* `kinds` : what the lines say, less those that are passed over
* `parseWith_sheet_of_kinds_eq` : sheets that say the same have the same tree
-/

namespace Varsheet.Document

/-- Lines as one sheet. -/
def sheet (lines : List (List Char)) : String :=
  String.ofList (['\n'].intercalate lines)

/-- The entries that some lines hold. -/
def entriesIn (tab : List Char) (lines : List (List Char)) : List Entry :=
  lines.filterMap (Entry.ofLine? tab)

theorem map_text_numbered (start : Nat) (lines : List (List Char)) :
    (numbered start lines).map Line.text = lines := by
  rw [numbered, List.map_map]
  exact List.zipIdx_map_fst start lines

theorem forall_mem_numbered_iff {start : Nat} {lines : List (List Char)} {P : List Char → Prop} :
    (∀ line ∈ numbered start lines, P line.text) ↔ ∀ line ∈ lines, P line := by
  rw [← List.forall_mem_map, map_text_numbered]

theorem lineEntries_numbered (tab : List Char) (start : Nat) (lines : List (List Char)) :
    lineEntries tab (numbered start lines) = entriesIn tab lines := by
  conv_rhs => rw [entriesIn, ← map_text_numbered start lines, List.filterMap_map]
  rfl

/-! ## The block at the root -/

theorem forall_outcome_ne_error_iff (tab : List Char) {lines : List Line} :
    (∀ bad, (readBlock tab 0 [] lines).outcome ≠ .error bad) ↔
      ∀ line ∈ lines, ¬ LacksColon line.text := by
  have none : (∀ bad, lines.find? (fun line => LacksColon line.text) ≠ some bad) ↔
      ∀ line ∈ lines, ¬ LacksColon line.text := by
    rw [← Option.eq_none_iff_forall_ne_some, List.find?_eq_none]
    simp
  rw [← none]
  exact forall_congr' fun bad => not_congr outcome_root_eq_error_iff

/-- The block at the root has a tree exactly if no line lacks its colon, and the tree follows from the entries. -/
theorem outcome_root_eq_ok_iff {tab : List Char} {lines : List Line} {tree : Tree} :
    (readBlock tab 0 [] lines).outcome = .ok tree ↔
      (∀ line ∈ lines, ¬ LacksColon line.text) ∧ tree = Outline.tree (lineEntries tab lines) := by
  have outlined {found : Tree} (read : (readBlock tab 0 [] lines).outcome = .ok found) :
      found = Outline.tree (lineEntries tab lines) := by
    have reads := reads_readBlock tab 0 [] lines
    rw [read] at reads
    obtain ⟨stretch, split, taken, result⟩ := reads.taken [] rfl (List.nil_append _).symm
      (Nat.zero_le _) (Outline.level_le_limit _ 0)
    -- the root leaves no entry behind
    rw [taken.ends.resolve_right (Nat.not_lt_zero _), List.append_nil] at split
    rw [result, ← split]
    exact Tree.ofEntries_eq_collect _
  rw [← forall_outcome_ne_error_iff tab]
  constructor
  · intro read
    exact ⟨fun bad failed => (nomatch read.symm.trans failed), outlined read⟩
  · rintro ⟨sound, rfl⟩
    cases read : (readBlock tab 0 [] lines).outcome with
    | error bad => exact absurd read (sound bad)
    | ok found => rw [outlined read]

/-! ## The first line that lacks its colon -/

theorem numbered_cons (start : Nat) (line : List Char) (rest : List (List Char)) :
    numbered start (line :: rest) = ⟨start, line⟩ :: numbered (start + 1) rest := rfl

/-- The first line that lacks its colon cuts the lines in two. -/
theorem find?_numbered_eq_some_iff {start : Nat} {lines : List (List Char)} {bad : Line} :
    (numbered start lines).find? (fun line => LacksColon line.text) = some bad ↔
      ∃ front line back, lines = front ++ line :: back ∧ (∀ earlier ∈ front, ¬ LacksColon earlier) ∧
        LacksColon line ∧ bad = ⟨start + front.length, line⟩ := by
  constructor
  · intro found
    induction lines generalizing start with
    | nil => cases found
    | cons line rest ih =>
      rw [numbered_cons] at found
      by_cases lacks : LacksColon line
      · rw [List.find?_cons_of_pos (by simpa using lacks)] at found
        cases found
        exact ⟨[], line, rest, rfl, nofun, lacks, rfl⟩
      · rw [List.find?_cons_of_neg (by simpa using lacks)] at found
        -- the numbers of the remaining lines start one higher
        obtain ⟨front, first, back, rfl, before, lacking, rfl⟩ := ih found
        refine ⟨line :: front, first, back, rfl, List.forall_mem_cons.2 ⟨lacks, before⟩, lacking, ?_⟩
        rw [List.length_cons, Nat.add_right_comm, Nat.add_assoc]
  · rintro ⟨front, line, back, rfl, before, lacks, rfl⟩
    have notBefore : (numbered start front).find? (fun line => LacksColon line.text) = none := by
      simpa using forall_mem_numbered_iff.2 before
    rw [numbered_append, List.find?_append, notBefore, numbered_cons,
      List.find?_cons_of_pos (by simpa using lacks)]
    rfl

/-! ## Sheets -/

section

variable {tab : String} {lines : List (List Char)}

/-- No lines at all make a sheet of one blank line, which changes nothing. -/
theorem result_sheet (oneLine : ∀ line ∈ lines, Text.OneLine line) :
    (parseWith tab (sheet lines)).result =
      (readBlock tab.toList 0 [] (numbered 1 lines)).outcome.mapError Line.fault := by
  rw [result_parseWith]
  by_cases empty : lines = []
  · subst empty
    have passed : (readBlock tab.toList 0 [] [⟨1, []⟩]).pair = (readBlock tab.toList 0 [] []).pair :=
      readBlock_passed rfl
    exact congrArg (fun reading => reading.1.mapError Line.fault) passed
  · rw [Line.ofText, sheet, String.toList_ofList, Text.lines_intercalate empty oneLine]
    rfl

/-- A sheet has a tree exactly if none of its lines lacks its colon, and the tree follows from the entries. -/
theorem parseWith_sheet_eq_ok_iff (oneLine : ∀ line ∈ lines, Text.OneLine line) {tree : Tree} :
    (parseWith tab (sheet lines)).result = .ok tree ↔
      (∀ line ∈ lines, ¬ LacksColon line) ∧ tree = Outline.tree (entriesIn tab.toList lines) := by
  have kept : (parseWith tab (sheet lines)).result = .ok tree ↔
      (readBlock tab.toList 0 [] (numbered 1 lines)).outcome = .ok tree := by
    rw [result_sheet oneLine]
    cases (readBlock tab.toList 0 [] (numbered 1 lines)).outcome <;> simp [Except.mapError]
  rw [kept, outcome_root_eq_ok_iff, forall_mem_numbered_iff (P := fun line => ¬ LacksColon line),
    lineEntries_numbered]

/-- A sheet that fails is cut in two by the line that is reported. -/
theorem parseWith_sheet_eq_error_iff (oneLine : ∀ line ∈ lines, Text.OneLine line) {fault : Fault} :
    (parseWith tab (sheet lines)).result = .error fault ↔
      ∃ front line back, lines = front ++ line :: back ∧ (∀ earlier ∈ front, ¬ LacksColon earlier) ∧
        LacksColon line ∧ fault = .missingColon (front.length + 1) (String.ofList line) := by
  have reported : (parseWith tab (sheet lines)).result = .error fault ↔
      ∃ bad, (readBlock tab.toList 0 [] (numbered 1 lines)).outcome = .error bad ∧ fault = bad.fault := by
    rw [result_sheet oneLine]
    cases (readBlock tab.toList 0 [] (numbered 1 lines)).outcome <;> simp [Except.mapError, eq_comm]
  simp only [reported, outcome_root_eq_error_iff, find?_numbered_eq_some_iff]
  constructor
  · rintro ⟨_, ⟨front, line, back, parts, before, lacks, rfl⟩, rfl⟩
    exact ⟨front, line, back, parts, before, lacks, by rw [Nat.add_comm]; rfl⟩
  · rintro ⟨front, line, back, parts, before, lacks, rfl⟩
    exact ⟨_, ⟨front, line, back, parts, before, lacks, rfl⟩, by rw [Nat.add_comm]; rfl⟩

end

/-! ## What lines say -/

/-- The kinds of all lines that are not passed over. -/
def kinds (tab : List Char) (lines : List (List Char)) : List LineKind :=
  (lines.map (classify tab)).filter (· ≠ .passed)

theorem kinds_append (tab : List Char) (front back : List (List Char)) :
    kinds tab (front ++ back) = kinds tab front ++ kinds tab back := by
  rw [kinds, List.map_append, List.filter_append, kinds, kinds]

theorem kinds_cons_of_passed {tab line : List Char} (passed : classify tab line = .passed)
    (rest : List (List Char)) : kinds tab (line :: rest) = kinds tab rest := by
  rw [kinds, List.map_cons, passed, List.filter_cons_of_neg (by simp), kinds]

theorem malformed_mem_kinds_iff {tab : List Char} {lines : List (List Char)} :
    .malformed ∈ kinds tab lines ↔ ∃ line ∈ lines, LacksColon line := by
  simp [kinds, ← classify_eq_malformed_iff tab]

/-- The entry that a line of this kind holds. -/
def LineKind.entry? : LineKind → Option Entry
  | .entry held => some held
  | _ => none

theorem entriesIn_eq_filterMap_kinds (tab : List Char) (lines : List (List Char)) :
    entriesIn tab lines = (kinds tab lines).filterMap LineKind.entry? := by
  rw [kinds, List.filterMap_filter, List.filterMap_map, entriesIn]
  refine List.filterMap_congr fun line _ => ?_
  simp only [Entry.ofLine?, Function.comp_apply]
  cases classify tab line <;> simp [LineKind.entry?]

/-- Two sheets whose lines say the same have the same tree. -/
theorem parseWith_sheet_of_kinds_eq {tab : String} {lines others : List (List Char)} {tree : Tree}
    (oneLine : ∀ line ∈ lines, Text.OneLine line) (othersOneLine : ∀ line ∈ others, Text.OneLine line)
    (same : kinds tab.toList others = kinds tab.toList lines)
    (parsed : (parseWith tab (sheet lines)).result = .ok tree) :
    (parseWith tab (sheet others)).result = .ok tree := by
  obtain ⟨sound, rfl⟩ := (parseWith_sheet_eq_ok_iff oneLine).1 parsed
  -- both conditions for a tree can be read off the kinds
  refine (parseWith_sheet_eq_ok_iff othersOneLine).2 ⟨?_, ?_⟩
  · intro line member lacks
    have bad : .malformed ∈ kinds tab.toList others := malformed_mem_kinds_iff.2 ⟨line, member, lacks⟩
    rw [same, malformed_mem_kinds_iff] at bad
    obtain ⟨line, member, lacks⟩ := bad
    exact sound line member lacks
  · rw [entriesIn_eq_filterMap_kinds, ← same, ← entriesIn_eq_filterMap_kinds]

end Varsheet.Document
