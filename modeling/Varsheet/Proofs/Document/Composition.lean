import Varsheet.Proofs.Document.Sheets
import Varsheet.Proofs.Document.Writing

/-!
# One sheet behind another

If the first entry of a sheet is not indented, it can be written behind any other sheet: the blocks that are still
open at the end of that one, however deep, are closed by this entry, and the entries at the root are bound one after
another.

The block that is open when the first sheet ends would have taken the blank lines and comments that the second one
starts with. They are therefore counted among the lines of the first, where they change nothing.

* `Reads.ends` : a block is left at an entry outside of it, or at the end of the sheet
* `Reads.append` : reading goes on with the lines that follow
* `Reads.exists_bindings` : a block binds the same entries into any tree
* `parseWith_sheet_append` : the tree of one sheet behind another, or the line that is reported
-/

namespace Varsheet.Document

/-! ## Blocks -/

section

variable {tab : List Char} {level : Nat} {tree out : Tree} {lines left after : List Line}
  {outcome : Except Line Tree}

theorem Ends.append (ends : Ends tab level left) (later : Ends tab level after) :
    Ends tab level (left ++ after) := by
  cases left with
  | nil => exact later
  | cons line rest => exact ends

/-- A block that was read without failure has stopped at an entry outside of it, or at the end. -/
theorem Reads.ends (reads : Reads tab (level + 1) tree lines (.ok out) left) : Ends tab level left :=
  ends_iff_stops.2 reads.stops

/-- If the lines `after` end all blocks but the one at the root, then reading goes on with them where it stopped before
them, however many blocks are still open there. -/
theorem Reads.append (reads : Reads tab level tree lines outcome left) (ends : Ends tab 0 after) :
    ∀ {out : Tree} {result : Except Line Tree} {behind : List Line}, outcome = .ok out →
      Reads tab level out (left ++ after) result behind →
      Reads tab level tree (lines ++ after) result behind := by
  -- by induction on the reading before, which is at an end only where nothing is left or the block is left
  induction reads with
  | nothing =>
    rintro _ _ _ ⟨⟩ next
    exact next
  | passed kind _ ih =>
    intro _ _ _ ok next
    exact .passed kind (ih ok next)
  | malformed => rintro _ _ _ ⟨⟩
  | shallow =>
    rintro _ _ _ ⟨⟩ next
    exact next
  | scalar kind inside filled _ ih =>
    intro _ _ _ ok next
    exact .scalar kind inside filled (ih ok next)
  | group kind inside bare inner _ ihInner ihNext =>
    intro _ _ _ ok next
    -- the inner block stops where it stopped before, or else right before the lines that follow
    have stops := (inner.ends.append (ends.of_le (Nat.zero_le _))).reads
    exact .group kind inside bare (ihInner rfl (stops _)) (ihNext ok next)
  | failed => rintro _ _ _ ⟨⟩

/-- What a block binds does not depend on the tree that it is read into. -/
theorem Reads.exists_bindings (reads : Reads tab level tree lines outcome left) :
    ∀ {out : Tree}, outcome = .ok out → ∃ entries, out = tree.insertAll entries ∧
      ∀ base : Tree, Reads tab level base lines (.ok (base.insertAll entries)) left := by
  induction reads with
  | nothing =>
    rintro _ ⟨⟩
    exact ⟨[], rfl, fun _ => .nothing⟩
  | passed kind _ ih =>
    intro _ ok
    obtain ⟨entries, bound, again⟩ := ih ok
    exact ⟨entries, bound, fun base => .passed kind (again base)⟩
  | malformed => rintro _ ⟨⟩
  | shallow kind outside =>
    rintro _ ⟨⟩
    exact ⟨[], rfl, fun _ => .shallow kind outside⟩
  | @scalar _ _ _ _ _ entry _ kind inside filled _ ih =>
    intro _ ok
    obtain ⟨entries, bound, again⟩ := ih ok
    exact ⟨(entry.key, .scalar entry.value) :: entries, bound,
      fun base => .scalar kind inside filled (again _)⟩
  | @group _ _ children _ _ _ _ entry _ kind inside bare inner _ _ ihNext =>
    intro _ ok
    -- what belongs to the group is read into an empty tree, whatever was bound before
    obtain ⟨entries, bound, again⟩ := ihNext ok
    exact ⟨(entry.key, .group children) :: entries, bound,
      fun base => .group kind inside bare inner (again _)⟩
  | failed => rintro _ ⟨⟩

end

/-! ## Sheets -/

section

variable {tab : String} {lines : List (List Char)} {tree : Tree}

/-- A sheet that has a tree is read to its end, wherever its numbers start. -/
theorem reads_of_parseWith_sheet (oneLine : ∀ line ∈ lines, Text.OneLine line)
    (parsed : (parseWith tab (sheet lines)).result = .ok tree) (start : Nat) :
    Reads tab.toList 0 [] (numbered start lines) (.ok tree) [] := by
  obtain ⟨sound, rfl⟩ := (parseWith_sheet_eq_ok_iff oneLine).1 parsed
  have colons : ∀ line ∈ numbered start lines, ¬ LacksColon line.text := forall_mem_numbered_iff.2 sound
  have finished : (numbered start lines).dropWhile (continues tab.toList 0) = [] :=
    List.dropWhile_eq_nil_iff.2 fun line member => by simpa [continues_zero] using colons line member
  have reads := reads_readBlock tab.toList 0 [] (numbered start lines)
  rw [outcome_root_eq_ok_iff.2 ⟨colons, rfl⟩, reads.left_eq_dropWhile, finished, lineEntries_numbered] at reads
  exact reads

theorem parseWith_sheet_of_reads (oneLine : ∀ line ∈ lines, Text.OneLine line) {left : List Line}
    (reads : Reads tab.toList 0 [] (numbered 1 lines) (.ok tree) left) :
    (parseWith tab (sheet lines)).result = .ok tree := by
  rw [result_sheet oneLine]
  exact congrArg (fun reading => reading.1.mapError Line.fault) reads.eq_readBlock

/-- Behind the lines that are passed over, a sheet whose first entry is not indented ends all blocks but the one at the
root. -/
theorem exists_cut_at_root (sound : ∀ line ∈ lines, ¬ LacksColon line)
    (atRoot : ∀ entry ∈ (entriesIn tab.toList lines).head?, entry.depth = 0) :
    ∃ remarks body, lines = remarks ++ body ∧ kinds tab.toList remarks = [] ∧
      ∀ start, Ends tab.toList 0 (numbered start body) := by
  induction lines with
  | nil => exact ⟨[], [], rfl, rfl, fun _ => nofun⟩
  | cons line rest ih =>
    obtain ⟨colon, later⟩ := List.forall_mem_cons.1 sound
    cases kind : classify tab.toList line with
    | passed =>
      have same : entriesIn tab.toList (line :: rest) = entriesIn tab.toList rest := by
        simp [entriesIn, Entry.ofLine?, kind]
      obtain ⟨remarks, body, rfl, noKinds, ends⟩ := ih later (same ▸ atRoot)
      exact ⟨line :: remarks, body, rfl, by rw [kinds_cons_of_passed kind, noKinds], ends⟩
    | malformed => exact absurd ((classify_eq_malformed_iff _ line).1 kind) colon
    | entry entry =>
      have first : (entriesIn tab.toList (line :: rest)).head? = some entry := by
        simp [entriesIn, Entry.ofLine?, kind]
      refine ⟨[], line :: rest, rfl, rfl, fun start => ?_⟩
      rintro _ ⟨⟩
      exact ⟨entry, kind, Nat.le_of_eq (atRoot entry first)⟩

end

section

variable {tab : String} {first second : List (List Char)} {tree other : Tree}

theorem parseWith_sheet_append_of_ok (firstOneLine : ∀ line ∈ first, Text.OneLine line)
    (secondOneLine : ∀ line ∈ second, Text.OneLine line)
    (atRoot : ∀ entry ∈ (entriesIn tab.toList second).head?, entry.depth = 0)
    (parsed : (parseWith tab (sheet first)).result = .ok tree)
    (otherParsed : (parseWith tab (sheet second)).result = .ok other) :
    (parseWith tab (sheet (first ++ second))).result = .ok (tree.insertAll other) := by
  obtain ⟨sound, -⟩ := (parseWith_sheet_eq_ok_iff secondOneLine).1 otherParsed
  obtain ⟨remarks, body, rfl, noKinds, ends⟩ := exists_cut_at_root sound atRoot
  obtain ⟨remarksOneLine, bodyOneLine⟩ := List.forall_mem_append.1 secondOneLine
  have frontOneLine : ∀ line ∈ first ++ remarks, Text.OneLine line :=
    List.forall_mem_append.2 ⟨firstOneLine, remarksOneLine⟩
  -- the lines that are passed over belong to the first sheet, and the rest starts with an entry at the root
  have front : Reads tab.toList 0 [] (numbered 1 (first ++ remarks)) (.ok tree) [] := by
    have same : kinds tab.toList (first ++ remarks) = kinds tab.toList first := by
      rw [kinds_append, noKinds, List.append_nil]
    exact reads_of_parseWith_sheet frontOneLine
      (parseWith_sheet_of_kinds_eq firstOneLine frontOneLine same parsed) 1
  have back : Reads tab.toList 0 [] (numbered (1 + (first ++ remarks).length) body) (.ok other) [] := by
    have same : kinds tab.toList body = kinds tab.toList (remarks ++ body) := by
      rw [kinds_append, noKinds, List.nil_append]
    exact reads_of_parseWith_sheet bodyOneLine
      (parseWith_sheet_of_kinds_eq secondOneLine bodyOneLine same otherParsed) _
  obtain ⟨entries, rfl, again⟩ := back.exists_bindings rfl
  have whole := front.append (ends _) rfl (again tree)
  rw [← numbered_append, List.append_assoc] at whole
  rw [← Tree.ofEntries, Tree.insertAll_ofEntries]
  exact parseWith_sheet_of_reads (List.forall_mem_append.2 ⟨firstOneLine, secondOneLine⟩) whole

/-- A sheet whose first entry is not indented can stand behind any other. Its entries at the root are then bound into
the tree of the first sheet. A line that cannot be read is reported as in the first sheet, or else as in the second one
with the lines of the first counted as well. -/
theorem parseWith_sheet_append (tab : String) (first second : List (List Char))
    (firstOneLine : ∀ line ∈ first, Text.OneLine line) (secondOneLine : ∀ line ∈ second, Text.OneLine line)
    (atRoot : ∀ entry ∈ (entriesIn tab.toList second).head?, entry.depth = 0) :
    (∀ tree other, (parseWith tab (sheet first)).result = .ok tree →
      (parseWith tab (sheet second)).result = .ok other →
        (parseWith tab (sheet (first ++ second))).result = .ok (tree.insertAll other)) ∧
    (∀ fault, (parseWith tab (sheet first)).result = .error fault →
      (parseWith tab (sheet (first ++ second))).result = .error fault) ∧
    (∀ tree fault, (parseWith tab (sheet first)).result = .ok tree →
      (parseWith tab (sheet second)).result = .error fault →
        ∃ number content note, fault = .badLine number content note ∧
          (parseWith tab (sheet (first ++ second))).result =
            .error (.badLine (first.length + number) content note)) := by
  have oneLine : ∀ line ∈ first ++ second, Text.OneLine line :=
    List.forall_mem_append.2 ⟨firstOneLine, secondOneLine⟩
  refine ⟨fun tree other => ?_, fun fault failed => ?_, fun tree fault parsed failed => ?_⟩
  · exact parseWith_sheet_append_of_ok firstOneLine secondOneLine atRoot
  · obtain ⟨front, line, back, rfl, sound, lacks, rfl⟩ := (parseWith_sheet_eq_error_iff firstOneLine).1 failed
    exact (parseWith_sheet_eq_error_iff oneLine).2
      ⟨front, line, back ++ second, by simp, sound, lacks, rfl⟩
  · -- the first sheet has no such line, so all of it stands before the one that is reported
    obtain ⟨sound, -⟩ := (parseWith_sheet_eq_ok_iff firstOneLine).1 parsed
    obtain ⟨front, line, back, rfl, before, lacks, rfl⟩ := (parseWith_sheet_eq_error_iff secondOneLine).1 failed
    refine ⟨front.length + 1, String.ofList line, _, rfl, ?_⟩
    refine (parseWith_sheet_eq_error_iff oneLine).2 ⟨first ++ front, line, back, by simp, ?_, lacks, ?_⟩
    · exact List.forall_mem_append.2 ⟨sound, before⟩
    · rw [List.length_append, Nat.add_assoc]
      rfl

/-- The first sheet ends inside of two groups, and the second one starts with lines that are passed over and gives a
name of the first again. -/
theorem parseWith_sheet_append_regiven :
    (parseWith "  " (sheet ["a:".toList, "\tb:".toList, "\t  c: 1".toList])).result =
        .ok [("a", .group [("b", .group [("c", .scalar "1")])])] ∧
      (parseWith "  " (sheet ["    # : x".toList, [], "b: 2".toList, "a:".toList, "  d: 3".toList])).result =
        .ok [("b", .scalar "2"), ("a", .group [("d", .scalar "3")])] ∧
      (parseWith "  " (sheet ["a:".toList, "\tb:".toList, "\t  c: 1".toList, "    # : x".toList, [], "b: 2".toList,
          "a:".toList, "  d: 3".toList])).result =
        .ok [("a", .group [("d", .scalar "3")]), ("b", .scalar "2")] ∧
      (parseWith "  " (sheet ["a".toList])).result = .error (.missingColon 1 "a") ∧
      (parseWith "  " (sheet ["a".toList, "b:".toList, "c".toList])).result = .error (.missingColon 1 "a") ∧
      (parseWith "  " (sheet ["b:".toList, "c".toList])).result = .error (.missingColon 2 "c") ∧
      (parseWith "  " (sheet ["a:".toList, "\tb:".toList, "\t  c: 1".toList, "b:".toList, "c".toList])).result =
        .error (.missingColon 5 "c") := by
  have parsed : (parseWith "  " (sheet ["a:".toList, "\tb:".toList, "\t  c: 1".toList])).result =
      .ok [("a", .group [("b", .group [("c", .scalar "1")])])] := by decide +kernel
  have otherParsed : (parseWith "  " (sheet ["    # : x".toList, [], "b: 2".toList, "a:".toList,
      "  d: 3".toList])).result = .ok [("b", .scalar "2"), ("a", .group [("d", .scalar "3")])] := by decide +kernel
  have failed : (parseWith "  " (sheet ["a".toList])).result = .error (.missingColon 1 "a") := by decide +kernel
  have otherFailed : (parseWith "  " (sheet ["b:".toList, "c".toList])).result = .error (.missingColon 2 "c") := by
    decide +kernel
  obtain ⟨bound, -, -⟩ := parseWith_sheet_append "  " ["a:".toList, "\tb:".toList, "\t  c: 1".toList]
    ["    # : x".toList, [], "b: 2".toList, "a:".toList, "  d: 3".toList] (by decide) (by decide) (by decide +kernel)
  obtain ⟨-, kept, -⟩ := parseWith_sheet_append "  " ["a".toList] ["b:".toList, "c".toList] (by decide) (by decide)
    (by decide +kernel)
  obtain ⟨-, -, moved⟩ := parseWith_sheet_append "  " ["a:".toList, "\tb:".toList, "\t  c: 1".toList]
    ["b:".toList, "c".toList] (by decide) (by decide) (by decide +kernel)
  refine ⟨parsed, otherParsed, bound _ _ parsed otherParsed, failed, kept _ failed, otherFailed, ?_⟩
  obtain ⟨number, content, note, same, reported⟩ := moved _ _ parsed otherFailed
  cases same
  exact reported

end

end Varsheet.Document
