import Varsheet.Proofs.Document.Depth
import Varsheet.Proofs.Document.Sheets

/-!
# Lines and blanks that make no difference

A blank line or a comment can be put anywhere into a sheet, between a group and what belongs to it as well as
before the end of any number of blocks: only the lines behind it are counted anew. Blanks at the end of a line make
no difference either, as long as the unit of indentation has nothing but blanks in it. A unit with other characters
could end in the blanks that are added, and the line would then be deeper than before.

* `IsRemark` : blank lines and comments
* `classify_of_isRemark` : they are passed over
* `classify_append_of_blank` : a line says the same with blanks behind it
* `parseWith_sheet_remark` : neither changes what a sheet is read into
-/

namespace Varsheet.Document

/-- The text has nothing but blanks in it. -/
def IsBlank (text : List Char) : Prop :=
  ∀ c ∈ text, Text.isBlank c = true

instance (text : List Char) : Decidable (IsBlank text) :=
  List.decidableBAll _ _

/-- The line is blank, or its first character that is not blank is the sign of a comment. -/
def IsRemark (line : List Char) : Prop :=
  IsBlank line ∨ line.find? (fun c => !Text.isBlank c) = some '#'

instance (line : List Char) : Decidable (IsRemark line) :=
  inferInstanceAs (Decidable (_ ∨ _))

variable {tab line : List Char}

theorem classify_of_isRemark (tab : List Char) (remark : IsRemark line) : classify tab line = .passed := by
  obtain blank | comment := remark
  · have nothing : Text.trim line = [] := by
      by_contra filled
      obtain ⟨c, member, solid⟩ := Text.exists_solid_of_trim_ne_nil filled
      rw [blank c member] at solid
      cases solid
    rw [classify, nothing]
  · cases parts : Text.trim line with
    | nil => rw [classify, parts]
    | cons c rest =>
      -- what is left of the line starts with its first character that is not blank
      have first : line.find? (fun c => !Text.isBlank c) = some c := by
        rw [List.find?_eq_head?_dropWhile_not]
        simp only [Bool.not_not]
        apply Text.head?_of_head?_trimRight
        show (Text.trim line).head? = some c
        rw [parts]
        rfl
      rw [comment] at first
      cases first
      simp [classify, parts]

theorem classify_append_of_blank {behind : List Char} (blankUnit : IsBlank tab) (blank : IsBlank behind) :
    classify tab (line ++ behind) = classify tab line := by
  have same : Text.trim (line ++ behind) = Text.trim line := Text.trim_append_of_blank_behind blank
  by_cases filled : Text.trim line = []
  · rw [classify, classify, same, filled]
  · -- the indentation ends before the first character that is not blank, which is in the line already
    obtain ⟨c, member, solid⟩ := Text.exists_solid_of_trim_ne_nil filled
    rw [classify, classify, same, depth_append_of_solid blankUnit member solid]

/-! ## Sheets -/

theorem kinds_remark (tab : List Char) {remark : List Char} (isRemark : IsRemark remark)
    (front back : List (List Char)) :
    kinds tab (front ++ remark :: back) = kinds tab (front ++ back) := by
  rw [kinds_append, kinds_cons_of_passed (classify_of_isRemark tab isRemark), ← kinds_append]

theorem map_classify_zipWith_append (blankUnit : IsBlank tab) {lines pads : List (List Char)}
    (each : pads.length = lines.length) (blank : ∀ pad ∈ pads, IsBlank pad) :
    (List.zipWith (· ++ ·) lines pads).map (classify tab) = lines.map (classify tab) := by
  induction lines generalizing pads with
  | nil => rfl
  | cons line rest ih =>
    obtain ⟨pad, pads, rfl⟩ := List.exists_cons_of_length_eq_add_one each
    obtain ⟨first, later⟩ := List.forall_mem_cons.1 blank
    rw [List.zipWith_cons_cons, List.map_cons, List.map_cons, classify_append_of_blank blankUnit first,
      ih (Nat.succ.inj each) later]

theorem oneLine_of_mem_zipWith_append {lines pads : List (List Char)}
    (oneLine : ∀ line ∈ lines, Text.OneLine line) (padOneLine : ∀ pad ∈ pads, Text.OneLine pad) :
    ∀ line ∈ List.zipWith (· ++ ·) lines pads, Text.OneLine line := by
  intro line member
  obtain ⟨i, bound, rfl⟩ := List.mem_iff_getElem.1 member
  rw [List.getElem_zipWith]
  exact (oneLine _ (List.getElem_mem _)).append (padOneLine _ (List.getElem_mem _))

theorem oneLine_remark {front back : List (List Char)} {remark : List Char}
    (oneLine : ∀ line ∈ front ++ back, Text.OneLine line) (single : Text.OneLine remark) :
    ∀ line ∈ front ++ remark :: back, Text.OneLine line := by
  obtain ⟨before, behind⟩ := List.forall_mem_append.1 oneLine
  exact List.forall_mem_append.2 ⟨before, List.forall_mem_cons.2 ⟨single, behind⟩⟩

theorem not_lacksColon_of_isRemark (isRemark : IsRemark line) : ¬ LacksColon line := by
  rw [← classify_eq_malformed_iff [], classify_of_isRemark [] isRemark]
  exact nofun

/-- Of two ways to cut a list, one at an element, the other one cuts above that element or below it. -/
theorem append_eq_append_cons {α : Type} {front back before behind : List α} {a : α}
    (cut : front ++ back = before ++ a :: behind) :
    (∃ between, before = front ++ between ∧ back = between ++ a :: behind) ∨
      ∃ between, front = before ++ a :: between ∧ behind = between ++ back := by
  obtain above | ⟨between, parts, rest⟩ := List.append_eq_append_iff.1 cut
  · exact .inl above
  · obtain ⟨rfl, rfl⟩ | ⟨between, rfl, rfl⟩ := List.cons_eq_append_iff.1 rest
    · exact .inl ⟨[], by simpa using parts.symm, rfl⟩
    · exact .inr ⟨between, parts, rfl⟩

/-- A remark above the line that is reported moves it down by one, and a remark below leaves it where it is. -/
theorem parseWith_sheet_remark_error {tab : String} {front back : List (List Char)} {remark : List Char}
    (oneLine : ∀ line ∈ front ++ back, Text.OneLine line) (single : Text.OneLine remark)
    (isRemark : IsRemark remark) {fault : Fault}
    (failed : (parseWith tab (sheet (front ++ back))).result = .error fault) :
    ∃ number content note, fault = .badLine number content note ∧
      (parseWith tab (sheet (front ++ remark :: back))).result =
        .error (.badLine (if front.length < number then number + 1 else number) content note) := by
  obtain ⟨before, line, behind, cut, sound, lacks, rfl⟩ := (parseWith_sheet_eq_error_iff oneLine).1 failed
  refine ⟨before.length + 1, String.ofList line, _, rfl, ?_⟩
  rw [parseWith_sheet_eq_error_iff (oneLine_remark oneLine single)]
  -- the remark is above the line in the first case and below it in the second
  obtain ⟨between, rfl, rfl⟩ | ⟨between, rfl, rfl⟩ := append_eq_append_cons cut
  · obtain ⟨inFront, inBetween⟩ := List.forall_mem_append.1 sound
    have notRemark := not_lacksColon_of_isRemark isRemark
    refine ⟨front ++ remark :: between, line, behind, by simp, ?_, lacks, ?_⟩
    · exact List.forall_mem_append.2 ⟨inFront, List.forall_mem_cons.2 ⟨notRemark, inBetween⟩⟩
    · rw [if_pos (by rw [List.length_append]; omega), List.length_append, List.length_append,
        List.length_cons]
      rfl
  · refine ⟨before, line, between ++ remark :: back, by simp, sound, lacks, ?_⟩
    rw [if_neg (by rw [List.length_append, List.length_cons]; omega)]
    rfl

/-- A sheet is read into the same tree with a blank line or a comment between any of its lines, and a line that is
reported is reported at its new place. If the unit of indentation is blank, it is also read into the same tree with
blanks behind its lines. -/
theorem parseWith_sheet_remark (tab : String) (lines : List (List Char))
    (oneLine : ∀ line ∈ lines, Text.OneLine line) :
    (∀ front back remark, lines = front ++ back → Text.OneLine remark → IsRemark remark →
      (∀ tree, (parseWith tab (sheet lines)).result = .ok tree →
        (parseWith tab (sheet (front ++ remark :: back))).result = .ok tree) ∧
      ∀ fault, (parseWith tab (sheet lines)).result = .error fault →
        ∃ number content note, fault = .badLine number content note ∧
          (parseWith tab (sheet (front ++ remark :: back))).result =
            .error (.badLine (if front.length < number then number + 1 else number) content note)) ∧
    (IsBlank tab.toList → ∀ pads : List (List Char), pads.length = lines.length →
      (∀ pad ∈ pads, IsBlank pad ∧ Text.OneLine pad) →
        ∀ tree, (parseWith tab (sheet lines)).result = .ok tree →
          (parseWith tab (sheet (List.zipWith (· ++ ·) lines pads))).result = .ok tree) := by
  constructor
  · rintro front back remark rfl single isRemark
    refine ⟨fun tree parsed => ?_, fun fault failed => ?_⟩
    · have same := kinds_remark tab.toList isRemark front back
      exact parseWith_sheet_of_kinds_eq oneLine (oneLine_remark oneLine single) same parsed
    · exact parseWith_sheet_remark_error oneLine single isRemark failed
  · intro blankUnit pads each padded tree parsed
    have padsBlank : ∀ pad ∈ pads, IsBlank pad := fun pad member => (padded pad member).1
    have padsOneLine : ∀ pad ∈ pads, Text.OneLine pad := fun pad member => (padded pad member).2
    have same : kinds tab.toList (List.zipWith (· ++ ·) lines pads) = kinds tab.toList lines := by
      rw [kinds, map_classify_zipWith_append blankUnit each padsBlank, kinds]
    exact parseWith_sheet_of_kinds_eq oneLine (oneLine_of_mem_zipWith_append oneLine padsOneLine) same parsed

/-- A comment that is indented between a group and what belongs to it, blanks behind a group, and a mistake in the
second line with a comment above it and below it. -/
theorem parseWith_sheet_remark_between :
    (parseWith "  " (sheet ["a:".toList, "  b: 1".toList, "c: 2".toList])).result =
        .ok [("a", .group [("b", .scalar "1")]), ("c", .scalar "2")] ∧
      (parseWith "  " (sheet ["a:".toList, "   # : x".toList, "  b: 1".toList, "c: 2".toList])).result =
        .ok [("a", .group [("b", .scalar "1")]), ("c", .scalar "2")] ∧
      (parseWith "  " (sheet ["a: ".toList, "  b: 1".toList, "c: 2 \t".toList])).result =
        .ok [("a", .group [("b", .scalar "1")]), ("c", .scalar "2")] ∧
      (parseWith "  " (sheet ["a:".toList, "  b".toList, "c".toList])).result = .error (.missingColon 2 "  b") ∧
      (parseWith "  " (sheet ["a:".toList, "\t".toList, "  b".toList, "c".toList])).result =
        .error (.missingColon 3 "  b") ∧
      (parseWith "  " (sheet ["a:".toList, "  b".toList, "#".toList, "c".toList])).result =
        .error (.missingColon 2 "  b") := by
  have parsed : (parseWith "  " (sheet ["a:".toList, "  b: 1".toList, "c: 2".toList])).result =
      .ok [("a", .group [("b", .scalar "1")]), ("c", .scalar "2")] := by decide +kernel
  have failed : (parseWith "  " (sheet ["a:".toList, "  b".toList, "c".toList])).result =
      .error (.missingColon 2 "  b") := by decide +kernel
  obtain ⟨between, behind⟩ := parseWith_sheet_remark "  " ["a:".toList, "  b: 1".toList, "c: 2".toList] (by decide)
  obtain ⟨among, -⟩ := parseWith_sheet_remark "  " ["a:".toList, "  b".toList, "c".toList] (by decide)
  refine ⟨parsed, ?_, ?_, failed, ?_, ?_⟩
  · exact (between ["a:".toList] _ "   # : x".toList rfl (by decide) (by decide)).1 _ parsed
  · exact behind (by decide) [" ".toList, [], " \t".toList] rfl (by decide) _ parsed
  · obtain ⟨number, content, note, same, moved⟩ :=
      (among ["a:".toList] _ "\t".toList rfl (by decide) (by decide)).2 _ failed
    cases same
    exact moved
  · obtain ⟨number, content, note, same, kept⟩ :=
      (among ["a:".toList, "  b".toList] _ "#".toList rfl (by decide) (by decide)).2 _ failed
    cases same
    exact kept

end Varsheet.Document
