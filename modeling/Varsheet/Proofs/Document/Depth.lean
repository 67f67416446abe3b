import Mathlib.Data.List.Basic
import Varsheet.Document.Entry

/-!
# Counting units of indentation

A unit of indentation is a tab character or the text `tab`. When that text is not empty and does not
start with a tab character, a line cannot be taken for fewer or more units than it was made of.

* `IsUnit` : the two kinds of units
* `stripUnit?_append` : a unit is taken off the front of a line whole
* `depth_flatten_append` : any mix of units counts as many as there are
* `depth_append_of_solid` : what stands behind the first character that is not blank makes no difference
* `IsIndented`, `depth_units_or_tabs` : the depth of any line, for any text `tab`
-/

namespace Varsheet.Document

/-- A unit of indentation: a tab character or the text `tab`. -/
def IsUnit (tab piece : List Char) : Prop :=
  piece = ['\t'] ∨ piece = tab

instance (tab piece : List Char) : Decidable (IsUnit tab piece) :=
  inferInstanceAs (Decidable (_ ∨ _))

/-- The text `tab` is not empty and does not start with a tab character. -/
def Countable (tab : List Char) : Prop :=
  tab ≠ [] ∧ tab.head? ≠ some '\t'

instance (tab : List Char) : Decidable (Countable tab) :=
  inferInstanceAs (Decidable (_ ∧ _))

variable {tab line piece rest : List Char}

theorem stripUnit?_append (countable : Countable tab) (unit : IsUnit tab piece) (rest : List Char) :
    stripUnit? tab (piece ++ rest) = some rest := by
  obtain rfl | rfl := unit
  · rfl
  · obtain ⟨filled, noTab⟩ := countable
    cases piece with
    | nil => exact absurd rfl filled
    | cons c piece =>
      -- a tab character would be tried first, but `tab` does not start with one
      have other : c ≠ '\t' := by simpa using noTab
      rw [List.cons_append, stripUnit?]
      · exact List.isPrefixOf?_eq_some_iff_append_eq.mpr rfl
      · exact fun _ e => other (List.cons.inj e).1

theorem depth_flatten_append (countable : Countable tab) {pieces : List (List Char)}
    (units : ∀ piece ∈ pieces, IsUnit tab piece) (rest : List Char) :
    depth tab (pieces.flatten ++ rest) = pieces.length + depth tab rest := by
  induction pieces with
  | nil => simp
  | cons piece pieces ih =>
    rw [List.flatten_cons, List.append_assoc]
    rw [depth_of_stripUnit?_eq_some (stripUnit?_append countable (units piece List.mem_cons_self) _)]
    rw [ih fun piece member => units piece (List.mem_cons_of_mem _ member), List.length_cons]
    omega

/-! ## Units of blanks -/

theorem isPrefixOf?_append_of_not_mem {front line : List Char} {c : Char} (other : c ∉ front) (member : c ∈ line)
    (behind : List Char) :
    front.isPrefixOf? (line ++ behind) = (front.isPrefixOf? line).map (· ++ behind) := by
  induction front generalizing line with
  | nil => rfl
  | cons d front ih =>
    cases line with
    | nil => cases member
    | cons e line =>
      rw [List.cons_append, List.isPrefixOf?, List.isPrefixOf?]
      by_cases same : d = e
      · subst same
        rw [List.mem_cons, not_or] at other
        have later : c ∈ line := List.mem_of_ne_of_mem other.1 member
        simp only [beq_self_eq_true, if_true]
        exact ih other.2 later
      · simp [same]

/-- A unit of blanks stands in front of the first other character, so it is found whatever comes behind that. -/
theorem stripUnit?_append_of_solid {c : Char} (blank : ∀ d ∈ tab, Text.isBlank d = true) (member : c ∈ line)
    (solid : Text.isBlank c = false) (behind : List Char) :
    stripUnit? tab (line ++ behind) = (stripUnit? tab line).map (· ++ behind) := by
  have other : c ∉ tab := fun found => by rw [blank c found] at solid; cases solid
  cases line with
  | nil => cases member
  | cons d line =>
    by_cases first : d = '\t'
    · subst first
      rfl
    · rw [List.cons_append, stripUnit?, stripUnit?]
      · split
        · rfl
        · exact isPrefixOf?_append_of_not_mem other member behind
      · exact fun _ e => first (List.cons.inj e).1
      · exact fun _ e => first (List.cons.inj e).1

theorem exists_unit_of_stripUnit? (stripped : stripUnit? tab line = some rest) :
    ∃ piece, IsUnit tab piece ∧ line = piece ++ rest := by
  unfold stripUnit? at stripped
  split at stripped
  · cases stripped
    exact ⟨['\t'], .inl rfl, rfl⟩
  · split at stripped
    · cases stripped
    · exact ⟨tab, .inr rfl, (List.isPrefixOf?_eq_some_iff_append_eq.1 stripped).symm⟩

/-- A unit of blanks holds no other character. -/
theorem IsUnit.not_mem {c : Char} (unit : IsUnit tab piece)
    (blank : ∀ d ∈ tab, Text.isBlank d = true) (solid : Text.isBlank c = false) : c ∉ piece := by
  intro member
  obtain rfl | rfl := unit
  · rw [List.mem_singleton.1 member] at solid
    cases solid
  · rw [blank c member] at solid
    cases solid

theorem depth_append_of_solid {c : Char} (blank : ∀ d ∈ tab, Text.isBlank d = true) (member : c ∈ line)
    (solid : Text.isBlank c = false) (behind : List Char) :
    depth tab (line ++ behind) = depth tab line := by
  have strips (line : List Char) (member : c ∈ line) := stripUnit?_append_of_solid blank member solid behind
  fun_induction depth tab line with
  | case1 line rest stripped ih =>
    obtain ⟨piece, unit, rfl⟩ := exists_unit_of_stripUnit? stripped
    have later : c ∈ rest := (List.mem_append.1 member).resolve_left (unit.not_mem blank solid)
    have next := strips _ member
    rw [stripped, Option.map_some] at next
    rw [depth_of_stripUnit?_eq_some next, ih later]
  | case2 line stripped =>
    have next := strips line member
    rw [stripped, Option.map_none] at next
    exact depth_of_stripUnit?_eq_none next

/-! ## Every line

Taking units off a line goes on as long as one is found. With such a text `tab` it does not matter which of the two
kinds is tried first, so the number of rounds is the only number of units that the line can be cut into. Otherwise
only tab characters are ever found.
-/

/-- A line after as many rounds of taking a unit of indentation off its front. -/
def stripUnits? (tab : List Char) : Nat → List Char → Option (List Char)
  | 0, line => some line
  | count + 1, line => (stripUnit? tab line).bind (stripUnits? tab count)

/-- The line consists of `count` units of indentation and a rest that starts with none. -/
def IsIndented (tab : List Char) (count : Nat) (line : List Char) : Prop :=
  ∃ (pieces : List (List Char)) (rest : List Char), line = pieces.flatten ++ rest ∧ pieces.length = count ∧
    (∀ piece ∈ pieces, IsUnit tab piece) ∧ ¬ ['\t'] <+: rest ∧ ¬ tab <+: rest

/-- Whether a unit is found does not depend on the order in which the two kinds are tried. -/
theorem stripUnit?_eq_none_iff (filled : tab ≠ []) :
    stripUnit? tab line = none ↔ ¬ ['\t'] <+: line ∧ ¬ tab <+: line := by
  unfold stripUnit?
  split
  · simp
  · rename_i noTab
    have first : ¬ ['\t'] <+: line := by
      rintro ⟨rest, rfl⟩
      exact noTab rest rfl
    have whole : tab.isPrefixOf? line = none ↔ ¬ tab <+: line := by
      rw [Option.eq_none_iff_forall_ne_some]
      simp only [ne_eq, List.isPrefixOf?_eq_some_iff_append_eq, List.IsPrefix, not_exists]
    simp [filled, first, whole]

theorem exists_pieces_of_stripUnits? {count : Nat} (stripped : stripUnits? tab count line = some rest) :
    ∃ pieces : List (List Char), line = pieces.flatten ++ rest ∧ pieces.length = count ∧
      ∀ piece ∈ pieces, IsUnit tab piece := by
  induction count generalizing line with
  | zero =>
    cases stripped
    exact ⟨[], rfl, rfl, nofun⟩
  | succ count ih =>
    obtain ⟨middle, first, later⟩ := Option.bind_eq_some_iff.1 stripped
    obtain ⟨piece, unit, rfl⟩ := exists_unit_of_stripUnit? first
    obtain ⟨pieces, rfl, rfl, units⟩ := ih later
    exact ⟨piece :: pieces, by simp, rfl, List.forall_mem_cons.2 ⟨unit, units⟩⟩

/-- There are as many rounds as the depth says. -/
theorem exists_stripUnits?_depth (tab line : List Char) :
    ∃ rest, stripUnits? tab (depth tab line) line = some rest ∧ stripUnit? tab rest = none := by
  fun_induction depth tab line with
  | case1 line next stripped ih =>
    obtain ⟨rest, later, stops⟩ := ih
    exact ⟨rest, by rw [stripUnits?, stripped, Option.bind_some, later], stops⟩
  | case2 line stops => exact ⟨line, rfl, stops⟩

theorem isIndented_depth (countable : Countable tab) (line : List Char) :
    IsIndented tab (depth tab line) line := by
  obtain ⟨rest, stripped, stops⟩ := exists_stripUnits?_depth tab line
  obtain ⟨pieces, parts, count, units⟩ := exists_pieces_of_stripUnits? stripped
  exact ⟨pieces, rest, parts, count, units, (stripUnit?_eq_none_iff countable.1).1 stops⟩

theorem IsIndented.depth_eq (countable : Countable tab) {count : Nat} (indented : IsIndented tab count line) :
    depth tab line = count := by
  obtain ⟨pieces, rest, rfl, rfl, units, bare⟩ := indented
  have stops := depth_of_stripUnit?_eq_none ((stripUnit?_eq_none_iff countable.1).2 bare)
  rw [depth_flatten_append countable units rest, stops, Nat.add_zero]

/-- An empty unit is never taken off, and one that starts with a tab character is never reached. -/
theorem stripUnit?_eq_some_iff (idle : tab = [] ∨ tab.head? = some '\t') :
    stripUnit? tab line = some rest ↔ line = '\t' :: rest := by
  unfold stripUnit?
  split
  · simp
  · rename_i noTab
    have never : (if tab.isEmpty then none else tab.isPrefixOf? line) ≠ some rest := by
      obtain rfl | starts := idle
      · exact nofun
      · obtain ⟨unit, rfl⟩ := List.head?_eq_some_iff.1 starts
        intro found
        exact noTab (unit ++ rest) (List.isPrefixOf?_eq_some_iff_append_eq.1 found).symm
    exact iff_of_false never (noTab rest)

theorem depth_eq_length_takeWhile (idle : tab = [] ∨ tab.head? = some '\t') (line : List Char) :
    depth tab line = (line.takeWhile (· = '\t')).length := by
  fun_induction depth tab line with
  | case1 line rest stripped ih =>
    rw [(stripUnit?_eq_some_iff idle).1 stripped, List.takeWhile_cons_of_pos (by simp), List.length_cons, ih]
  | case2 line stops =>
    cases line with
    | nil => rfl
    | cons c rest =>
      have other : c ≠ '\t' := by
        rintro rfl
        rw [(stripUnit?_eq_some_iff idle).2 rfl] at stops
        cases stops
      rw [List.takeWhile_cons_of_neg (by simpa using other)]
      rfl

/-- The units of indentation at the front of a line are taken off one by one until none is found, and the depth is their
number. If the text `tab` is not empty and does not start with a tab character, the line can be cut into that many units
and a rest that starts with none, and into no other number of them; which of the two kinds each of them is makes no
difference. Any other text is never found itself, and the tab characters at the front are counted. -/
theorem depth_units_or_tabs (tab line : List Char) :
    (∃ rest, stripUnits? tab (depth tab line) line = some rest ∧ stripUnit? tab rest = none) ∧
    (tab ≠ [] → tab.head? ≠ some '\t' →
      (∀ count, IsIndented tab count line ↔ count = depth tab line) ∧
      ∀ (pieces others : List (List Char)) (rest : List Char), line = pieces.flatten ++ rest →
        (∀ piece ∈ pieces, IsUnit tab piece) → (∀ piece ∈ others, IsUnit tab piece) →
        others.length = pieces.length → depth tab (others.flatten ++ rest) = depth tab line) ∧
    (tab = [] ∨ tab.head? = some '\t' →
      depth tab line = (line.takeWhile (· = '\t')).length ∧
      ∀ front rest, stripUnit? tab front = some rest ↔ front = '\t' :: rest) := by
  refine ⟨exists_stripUnits?_depth tab line, ?_, ?_⟩
  · intro filled noTab
    have countable : Countable tab := ⟨filled, noTab⟩
    refine ⟨fun count => ⟨fun indented => (indented.depth_eq countable).symm, ?_⟩, ?_⟩
    · rintro rfl
      exact isIndented_depth countable line
    · rintro pieces others rest rfl units otherUnits same
      rw [depth_flatten_append countable otherUnits, depth_flatten_append countable units, same]
  · intro idle
    exact ⟨depth_eq_length_takeWhile idle line, fun front rest => stripUnit?_eq_some_iff idle⟩

/-- The text `tab` has a tab character in it behind a space. In the first line the second unit is this text, and in the
second one a tab character. -/
theorem depth_units_or_tabs_mixed :
    depth [' ', '\t'] ['\t', ' ', '\t', '\t', ' ', 'a', ':'] = 3 ∧
      depth [' ', '\t'] ['\t', '\t', '\t', ' ', 'a', ':'] = 3 ∧
      depth ['\t', '\t', ' '] ['\t', '\t', ' ', '\t', 'a', ':'] = 2 := by
  have cut := (depth_units_or_tabs [' ', '\t'] ['\t', ' ', '\t', '\t', ' ', 'a', ':']).2.1 (by decide) (by decide)
  have three : depth [' ', '\t'] ['\t', ' ', '\t', '\t', ' ', 'a', ':'] = 3 :=
    ((cut.1 3).1 ⟨[['\t'], [' ', '\t'], ['\t']], [' ', 'a', ':'], rfl, rfl, by decide, by decide, by decide⟩).symm
  refine ⟨three, ?_, ?_⟩
  · have replaced := cut.2 [['\t'], [' ', '\t'], ['\t']] [['\t'], ['\t'], ['\t']] [' ', 'a', ':'] rfl
      (by decide) (by decide) rfl
    exact replaced.trans three
  · exact ((depth_units_or_tabs ['\t', '\t', ' '] ['\t', '\t', ' ', '\t', 'a', ':']).2.2 (.inr rfl)).1

end Varsheet.Document
