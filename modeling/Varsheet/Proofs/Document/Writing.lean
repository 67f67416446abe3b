import Varsheet.Proofs.Document.Depth
import Varsheet.Proofs.Document.Stretch
import Varsheet.Proofs.Text.Lines
import Varsheet.Proofs.Tree.Binding
import Varsheet.Proofs.Tree.Shape

/-!
# Writing sheets

A tree is written as a sheet with one line for each entry. Every unit of indentation may be written as
a tab character or as the text that stands for one. What has been written is read back.

* `WellFormed` : the trees that can be written
* `write` : a tree as a sheet
* `classify_entryLine` : the line of an entry is read as this entry
* `parseWith_write` : a sheet that has been written gives back its tree
-/

namespace Varsheet.Document

/-! ## What can be written -/

/-- A name that can stand in front of a colon. -/
def IsName (key : String) : Prop :=
  Text.trim key.toList = key.toList ∧ ':' ∉ key.toList ∧ Text.OneLine key.toList ∧
    key.toList.head? ≠ some '#'

/-- A text that can stand behind a colon. -/
def IsText (text : String) : Prop :=
  text ≠ "" ∧ Text.trim text.toList = text.toList ∧ Text.OneLine text.toList

/-- The names of a group are distinct and can stand in front of a colon. -/
def AreNames (names : List String) : Prop :=
  names.Nodup ∧ ∀ key ∈ names, IsName key

/-- A tree that can be written: at every depth its names are distinct and can stand in front of a
colon, and its texts can stand behind one. -/
def WellFormed (tree : Tree) : Prop :=
  tree.Everywhere AreNames IsText

/-- A text that can be used as a unit of indentation beside the tab character. -/
def IsIndent (tab : String) : Prop :=
  tab ≠ "" ∧ (∀ c ∈ tab.toList, Text.isBlank c = true) ∧ Text.OneLine tab.toList ∧
    tab.toList.head? ≠ some '\t'

instance (key : String) : Decidable (IsName key) :=
  inferInstanceAs (Decidable (_ ∧ _ ∧ _ ∧ _))

instance (text : String) : Decidable (IsText text) :=
  inferInstanceAs (Decidable (_ ∧ _ ∧ _))

instance (names : List String) : Decidable (AreNames names) :=
  inferInstanceAs (Decidable (_ ∧ _))

instance (tree : Tree) : Decidable (WellFormed tree) :=
  inferInstanceAs (Decidable (tree.Everywhere AreNames IsText))

instance (tab : String) : Decidable (IsIndent tab) :=
  have : Decidable (∀ c ∈ tab.toList, Text.isBlank c = true) := List.decidableBAll _ _
  inferInstanceAs (Decidable (_ ∧ _ ∧ _ ∧ _))

/-! ## Lines -/

/-- So many units of indentation. The unit at place `i` is a tab character if `mix i` says so. -/
def indentation (tab : List Char) (mix : Nat → Bool) (level : Nat) : List Char :=
  ((List.range level).map fun i => if mix i then ['\t'] else tab).flatten

/-- The line of an entry, with what comes behind its colon. -/
def entryLine (tab : List Char) (mix : Nat → Bool) (level : Nat) (key : String)
    (behind : List Char) : List Char :=
  indentation tab mix level ++ (key.toList ++ ':' :: behind)

mutual

/-- The lines of one entry. The first of them has the number `number`, and `mix` tells for each line
which of its units are tab characters. -/
def valueLines (tab : List Char) (mix : Nat → Nat → Bool) (level number : Nat) (key : String) :
    Value → List (List Char)
  | .scalar text => [entryLine tab (mix number) level key (' ' :: text.toList)]
  | .group children =>
    entryLine tab (mix number) level key [] ::
      treeLines tab mix (level + 1) (number + 1) children

/-- The lines of some entries, one after the other. -/
def treeLines (tab : List Char) (mix : Nat → Nat → Bool) (level number : Nat) :
    List (String × Value) → List (List Char)
  | [] => []
  | (key, value) :: rest =>
    let first := valueLines tab mix level number key value
    first ++ treeLines tab mix level (number + first.length) rest

end

/-- A tree as a sheet. -/
def write (tab : String) (mix : Nat → Nat → Bool) (tree : Tree) : String :=
  String.ofList (['\n'].intercalate (treeLines tab.toList mix 0 1 tree))

/-! ## The line of an entry -/

section

variable {tab : String} {mix : Nat → Bool} {level : Nat} {key : String} {behind : List Char}

theorem IsIndent.countable (indent : IsIndent tab) : Countable tab.toList :=
  ⟨by simpa using indent.1, indent.2.2.2⟩

theorem depth_of_bareStart (indent : IsIndent tab) {text : List Char} (bare : Text.BareStart text) :
    depth tab.toList text = 0 := by
  obtain ⟨filled, blank, -, -⟩ := indent
  obtain ⟨first, others, parts⟩ : ∃ first others, tab.toList = first :: others :=
    List.exists_cons_of_ne_nil (by simpa using filled)
  refine depth_of_stripUnit?_eq_none ?_
  cases text with
  | nil => simp [stripUnit?, parts, List.isPrefixOf?]
  | cons c rest =>
    -- the unit starts with a blank and the line does not
    have solid : Text.isBlank c = false := bare c rfl
    have other : first ≠ c := by
      rintro rfl
      simp [blank first (by simp [parts])] at solid
    rw [stripUnit?]
    · simp [parts, List.isPrefixOf?, other]
    · rintro _ ⟨⟩
      cases solid

theorem mem_indentation {c : Char} (h : c ∈ indentation tab.toList mix level) :
    c = '\t' ∨ c ∈ tab.toList := by
  simp only [indentation, List.mem_flatten, List.mem_map] at h
  obtain ⟨_, ⟨i, -, rfl⟩, member⟩ := h
  split at member
  · exact .inl (List.mem_singleton.1 member)
  · exact .inr member

theorem blank_indentation (indent : IsIndent tab) :
    ∀ c ∈ indentation tab.toList mix level, Text.isBlank c = true := by
  intro c member
  obtain rfl | member := mem_indentation member
  · rfl
  · exact indent.2.1 c member

theorem oneLine_indentation (indent : IsIndent tab) :
    Text.OneLine (indentation tab.toList mix level) := by
  obtain ⟨noReturn, noFeed⟩ := indent.2.2.1
  constructor
  · intro member
    exact (mem_indentation member).elim (by decide) noReturn
  · intro member
    exact (mem_indentation member).elim (by decide) noFeed

theorem depth_indentation_append (indent : IsIndent tab) {text : List Char}
    (bare : Text.BareStart text) :
    depth tab.toList (indentation tab.toList mix level ++ text) = level := by
  rw [indentation, depth_flatten_append indent.countable, depth_of_bareStart indent bare]
  · simp
  · intro piece member
    obtain ⟨i, -, rfl⟩ := List.mem_map.1 member
    split
    · exact .inl rfl
    · exact .inr rfl

theorem IsName.bareStart (name : IsName key) (behind : List Char) :
    Text.BareStart (key.toList ++ ':' :: behind) := by
  intro c first
  rw [List.head?_append] at first
  cases h : key.toList.head? with
  | none =>
    rw [h] at first
    cases first
    rfl
  | some d =>
    rw [h] at first
    cases first
    exact (Text.trim_eq_self_iff.1 name.1).1 c h

theorem bareEnd_behind_colon (front : List Char) (bare : Text.BareEnd behind) :
    Text.BareEnd (front ++ ':' :: behind) := by
  intro c last
  cases behind with
  | nil =>
    rw [List.getLast?_concat] at last
    cases last
    rfl
  | cons d rest =>
    rw [List.getLast?_append_cons, List.getLast?_cons_cons] at last
    exact bare c last

theorem trim_entryLine (indent : IsIndent tab) (name : IsName key) (bare : Text.BareEnd behind) :
    Text.trim (entryLine tab.toList mix level key behind) = key.toList ++ ':' :: behind := by
  rw [entryLine, Text.trim_append_of_blank (blank_indentation indent), Text.trim_eq_self_iff]
  exact ⟨name.bareStart behind, bareEnd_behind_colon _ bare⟩

theorem classify_entryLine (indent : IsIndent tab) (name : IsName key)
    (bare : Text.BareEnd behind) :
    classify tab.toList (entryLine tab.toList mix level key behind) =
      .entry ⟨level, key, String.ofList (Text.trim behind)⟩ := by
  rw [classify_of_trim_eq (trim_entryLine indent name bare) name.2.1 name.2.2.2, entryLine,
    depth_indentation_append indent (name.bareStart behind), name.1, String.ofList_toList]

theorem IsText.bareEnd {text : String} (able : IsText text) :
    Text.BareEnd (' ' :: text.toList) := by
  intro c last
  rw [List.getLast?_cons_of_ne_nil (by simpa using able.1)] at last
  exact (Text.trim_eq_self_iff.1 able.2.1).2 c last

theorem classify_scalarLine {text : String} (indent : IsIndent tab) (name : IsName key)
    (able : IsText text) :
    classify tab.toList (entryLine tab.toList mix level key (' ' :: text.toList)) =
      .entry ⟨level, key, text⟩ := by
  have behind : Text.trim ([' '] ++ text.toList) = text.toList := by
    rw [Text.trim_append_of_blank (List.forall_mem_singleton.mpr rfl), able.2.1]
  rw [List.singleton_append] at behind
  rw [classify_entryLine indent name able.bareEnd, behind, String.ofList_toList]

theorem classify_groupLine (indent : IsIndent tab) (name : IsName key) :
    classify tab.toList (entryLine tab.toList mix level key []) = .entry ⟨level, key, ""⟩ :=
  classify_entryLine indent name (fun _ last => nomatch last)

end

/-! ## Blocks -/

/-- The lines `after` end every block further in than `level`. -/
def Ends (tab : List Char) (level : Nat) (after : List Line) : Prop :=
  ∀ line ∈ after.head?, ∃ entry, classify tab line.text = .entry entry ∧ entry.depth ≤ level

theorem ends_iff_stops {tab : List Char} {level : Nat} {after : List Line} :
    Ends tab level after ↔ Stops tab (level + 1) after := by
  simp only [Ends, Stops, outside_iff_exists_entry, Nat.lt_succ_iff]

theorem Ends.of_le {tab : List Char} {level inner : Nat} {after : List Line} (ends : Ends tab level after)
    (le : level ≤ inner) : Ends tab inner after := by
  intro line first
  obtain ⟨entry, kind, outside⟩ := ends line first
  exact ⟨entry, kind, Nat.le_trans outside le⟩

/-- A block that has come to such lines is finished. -/
theorem Ends.reads {tab : List Char} {level : Nat} {after : List Line} (ends : Ends tab level after)
    (tree : Tree) : Reads tab (level + 1) tree after (.ok tree) after :=
  (ends_iff_stops.1 ends).reads tree

section

variable {tab : String} {mix : Nat → Nat → Bool}

theorem ends_treeLines (indent : IsIndent tab) {level number : Nat} {entries : List (String × Value)}
    {after : List Line} (names : ∀ key ∈ Tree.keys entries, IsName key)
    (inside : Tree.Inside AreNames IsText entries) (ends : Ends tab.toList level after) :
    Ends tab.toList level (numbered number (treeLines tab.toList mix level number entries) ++ after) := by
  cases entries with
  | nil => simpa [treeLines] using ends
  | cons entry rest =>
    obtain ⟨key, value⟩ := entry
    have name : IsName key := names key (by simp [Tree.keys])
    cases value with
    | scalar text =>
      rintro _ ⟨⟩
      exact ⟨_, classify_scalarLine indent name inside.1, Nat.le_refl level⟩
    | group children =>
      rintro _ ⟨⟩
      exact ⟨_, classify_groupLine indent name, Nat.le_refl level⟩

mutual

/-- Reading the lines of an entry binds it, and goes on behind them. -/
theorem reads_valueLines (indent : IsIndent tab) {level number : Nat} {key : String}
    {acc : Tree} {after left : List Line} {outcome : Except Line Tree} (name : IsName key) :
    ∀ (value : Value), value.Everywhere AreNames IsText → Ends tab.toList level after →
      Reads tab.toList level (acc.insert key value) after outcome left →
      Reads tab.toList level acc
        (numbered number (valueLines tab.toList mix level number key value) ++ after) outcome left
  | .scalar text, able, _, next => by
    exact .scalar (classify_scalarLine indent name able) (Nat.le_refl level) able.1 next
  | .group children, ⟨names, inside⟩, ends, next => by
    refine .group (classify_groupLine indent name) (Nat.le_refl level) rfl ?_ next
    -- the names of the group are new, so reading it into nothing gives the group
    refine reads_treeLines indent children names.2 inside (ends.of_le (Nat.le_succ _)) ?_
    rw [Tree.insertAll_nil_of_nodup names.1]
    exact ends.reads children

/-- Reading the lines of some entries binds them one by one, and goes on behind them. -/
theorem reads_treeLines (indent : IsIndent tab) {level number : Nat} {acc : Tree}
    {after left : List Line} {outcome : Except Line Tree} :
    ∀ (entries : List (String × Value)), (∀ key ∈ Tree.keys entries, IsName key) →
      Tree.Inside AreNames IsText entries → Ends tab.toList level after →
      Reads tab.toList level (acc.insertAll entries) after outcome left →
      Reads tab.toList level acc
        (numbered number (treeLines tab.toList mix level number entries) ++ after) outcome left
  | [], _, _, _, next => next
  | (key, value) :: rest, names, ⟨able, inside⟩, ends, next => by
    have name : IsName key := names key List.mem_cons_self
    have others : ∀ key ∈ Tree.keys rest, IsName key :=
      fun key member => names key (List.mem_cons_of_mem _ member)
    rw [treeLines, numbered_append, List.append_assoc]
    exact reads_valueLines indent name value able (ends_treeLines indent others inside ends)
      (reads_treeLines indent rest others inside ends next)

end

/-! ## Sheets -/

theorem oneLine_entryLine {key : String} {behind : List Char} (indent : IsIndent tab)
    (name : IsName key) (oneLine : Text.OneLine behind) (units : Nat → Bool) (level : Nat) :
    Text.OneLine (entryLine tab.toList units level key behind) := by
  have colon : Text.OneLine (':' :: behind) := .cons (by decide) oneLine
  exact (oneLine_indentation indent).append (name.2.2.1.append colon)

mutual

theorem oneLine_valueLines (indent : IsIndent tab) {level number : Nat} {key : String}
    (name : IsName key) : ∀ (value : Value), value.Everywhere AreNames IsText →
      ∀ line ∈ valueLines tab.toList mix level number key value, Text.OneLine line
  | .scalar text, able, line, member => by
    rw [valueLines, List.mem_singleton] at member
    subst member
    have behind : Text.OneLine (' ' :: text.toList) := .cons (by decide) able.2.2
    exact oneLine_entryLine indent name behind _ _
  | .group children, ⟨names, inside⟩, line, member => by
    rw [valueLines, List.mem_cons] at member
    obtain rfl | member := member
    · exact oneLine_entryLine indent name (by decide) _ _
    · exact oneLine_treeLines indent children names.2 inside line member

theorem oneLine_treeLines (indent : IsIndent tab) {level number : Nat} :
    ∀ (entries : List (String × Value)), (∀ key ∈ Tree.keys entries, IsName key) →
      Tree.Inside AreNames IsText entries →
      ∀ line ∈ treeLines tab.toList mix level number entries, Text.OneLine line
  | [], _, _, line, member => nomatch member
  | (key, value) :: rest, names, ⟨able, inside⟩, line, member => by
    rw [treeLines, List.mem_append] at member
    obtain member | member := member
    · exact oneLine_valueLines indent (names key List.mem_cons_self) value able line member
    · exact oneLine_treeLines indent rest (fun key h => names key (List.mem_cons_of_mem _ h)) inside
        line member

end

theorem treeLines_ne_nil {entries : List (String × Value)} (filled : entries ≠ [])
    (level number : Nat) : treeLines tab.toList mix level number entries ≠ [] := by
  match entries, filled with
  | (key, .scalar text) :: rest, _ => simp [treeLines, valueLines]
  | (key, .group children) :: rest, _ => simp [treeLines, valueLines]

theorem ofText_write (indent : IsIndent tab) {tree : Tree} (wf : WellFormed tree)
    (filled : tree ≠ []) :
    Line.ofText (write tab mix tree) = numbered 1 (treeLines tab.toList mix 0 1 tree) := by
  rw [Line.ofText, write, String.toList_ofList, Text.lines_intercalate (treeLines_ne_nil filled 0 1)]
  · rfl
  · exact oneLine_treeLines indent tree wf.1.2 wf.2

theorem reads_write (mix : Nat → Nat → Bool) (indent : IsIndent tab) {tree : Tree}
    (wf : WellFormed tree) :
    Reads tab.toList 0 [] (Line.ofText (write tab mix tree)) (.ok tree) [] := by
  by_cases empty : tree = []
  -- nothing at all is written as one blank line
  · subst empty
    exact .passed rfl .nothing
  · have reads : Reads tab.toList 0 [] (numbered 1 (treeLines tab.toList mix 0 1 tree) ++ [])
        (.ok tree) [] :=
      reads_treeLines indent tree wf.1.2 wf.2 (fun _ first => nomatch first)
        (by rw [Tree.insertAll_nil_of_nodup wf.1.1]; exact .nothing)
    rwa [List.append_nil, ← ofText_write indent wf empty] at reads

end

/-- A sheet that has been written gives back its tree, however its indentation is made up. -/
theorem parseWith_write {options : Options} {tree : Tree} (mix : Nat → Nat → Bool)
    (indent : IsIndent options.tab) (wf : WellFormed tree) :
    (parseWith options.tab (write options.tab mix tree)).result = .ok tree := by
  have outcome := congrArg Prod.fst (reads_write mix indent wf).eq_readBlock
  rw [result_parseWith]
  exact congrArg (Except.mapError Line.fault) outcome

/-- Two spaces and tab characters take turns; there is an empty name, an empty group, and a text with a
colon in it. -/
theorem parseWith_write_alternating :
    IsIndent (Options.default.withTab "  ").tab ∧
      WellFormed [("a", .group [("", .group []), ("b", .group [("c", .scalar "#: x")])]), ("b", .scalar "1")] ∧
      (parseWith (Options.default.withTab "  ").tab (write (Options.default.withTab "  ").tab
        (fun line unit => (line + unit) % 2 == 0)
        [("a", .group [("", .group []), ("b", .group [("c", .scalar "#: x")])]), ("b", .scalar "1")])).result =
        .ok [("a", .group [("", .group []), ("b", .group [("c", .scalar "#: x")])]), ("b", .scalar "1")] :=
  ⟨by decide, by decide, parseWith_write _ (by decide) (by decide)⟩

end Varsheet.Document
