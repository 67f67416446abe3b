import Mathlib.Data.List.Permutation
import Varsheet.Document.Reader
import Varsheet.Proofs.Document.Outline
import Varsheet.Proofs.Document.Reading

/-!
# Blocks follow the outline

Reading a sheet block by block gives the tree of its outline. The invariant ties the block that is
being read to the level rule: at the place that has been reached, the level of the block is allowed,
and the entry there does not stand further in than the block. A block therefore takes a stretch of
entries that all stand at its level or further in, and binds those of its own level.

* `Taken` : the stretch that a block has taken
* `Reads.taken` : every block takes such a stretch
* `parseWith_eq_outline` : the tree of a sheet is the tree of its outline
-/

namespace Varsheet.Document

open Outline

def lineEntries (tab : List Char) (lines : List Line) : List Entry :=
  lines.filterMap fun line => Entry.ofLine? tab line.text

section

variable {tab : List Char} {line : Line} {rest : List Line}

theorem lineEntries_passed (kind : classify tab line.text = .passed) :
    lineEntries tab (line :: rest) = lineEntries tab rest := by
  simp [lineEntries, Entry.ofLine?, kind]

theorem lineEntries_entry {entry : Entry} (kind : classify tab line.text = .entry entry) :
    lineEntries tab (line :: rest) = entry :: lineEntries tab rest := by
  simp [lineEntries, Entry.ofLine?, kind]

theorem lineEntries_ofText (tab text : String) :
    lineEntries tab.toList (Line.ofText text) = entriesOf tab text := by
  rw [lineEntries, Line.ofText, entriesOf, List.filterMap_map]
  conv_rhs => rw [← List.zipIdx_map_fst 1 (Text.lines text.toList), List.filterMap_map]
  rfl

end

/-- What the entries of a stretch bind at one level. The stretch starts at place `start`. -/
def bindings (entries : List Entry) (level start : Nat) (stretch : List Entry) :
    List (String × Value) :=
  ((stretch.zipIdx start).filter fun member => Outline.level entries member.2 = level).map
    (binding entries)

/-- The block at `level` takes `stretch`, which starts at place `start`, and leaves `back`. -/
structure Taken (entries : List Entry) (level start : Nat) (stretch back : List Entry) : Prop where
  inside : ∀ k, start ≤ k → k < start + stretch.length → level ≤ Outline.level entries k
  allowed : level ≤ limit entries (start + stretch.length)
  ends : back = [] ∨ Outline.level entries (start + stretch.length) < level

section

variable {entries stretch back : List Entry} {entry : Entry} {level start : Nat}

theorem bindings_append (entries : List Entry) (level start : Nat) (front behind : List Entry) :
    bindings entries level start (front ++ behind) =
      bindings entries level start front ++
        bindings entries level (start + front.length) behind := by
  simp [bindings, List.zipIdx_append]

theorem bindings_cons_of_eq (same : Outline.level entries start = level) :
    bindings entries level start (entry :: stretch) =
      binding entries (entry, start) :: bindings entries level (start + 1) stretch := by
  simp [bindings, same]

/-- Entries that stand further in bind nothing at the level. -/
theorem bindings_of_deeper (taken : Taken entries (level + 1) start stretch back) :
    bindings entries level start stretch = [] := by
  rw [bindings, List.map_eq_nil_iff]
  refine List.filter_eq_nil_iff.2 fun member h => ?_
  have := taken.inside member.2 (List.le_snd_of_mem_zipIdx h) (List.snd_lt_add_of_mem_zipIdx h)
  simp only [decide_eq_true_eq]
  omega

/-- An entry inside of the block that has been reached stands at the level of the block. -/
theorem level_of_reached {done behind : List Entry} (parts : entries = done ++ entry :: behind)
    (inside : level ≤ entry.depth) (allowed : level ≤ limit entries done.length)
    (reached : Outline.level entries done.length ≤ level) :
    Outline.level entries done.length = level := by
  have here : entries[done.length]? = some entry := by simp [parts]
  have := level_of_getElem? here
  omega

theorem Taken.nil (allowed : level ≤ limit entries start)
    (ends : back = [] ∨ Outline.level entries start < level) : Taken entries level start [] back where
  inside k h h' := absurd h' (by simp only [List.length_nil]; omega)
  allowed := allowed
  ends := ends

theorem Taken.cons (same : Outline.level entries start = level)
    (taken : Taken entries level (start + 1) stretch back) :
    Taken entries level start (entry :: stretch) back := by
  have shift : start + (entry :: stretch).length = start + 1 + stretch.length := by
    simp only [List.length_cons]
    omega
  refine ⟨fun k h h' => ?_, shift ▸ taken.allowed, shift ▸ taken.ends⟩
  by_cases first : k = start
  · exact Nat.le_of_eq (by rw [first, same])
  · exact taken.inside k (by omega) (by omega)

theorem Taken.append {front behind : List Entry}
    (inner : Taken entries (level + 1) start front (behind ++ back))
    (taken : Taken entries level (start + front.length) behind back) :
    Taken entries level start (front ++ behind) back := by
  have shift : start + (front ++ behind).length = start + front.length + behind.length := by
    simp only [List.length_append]
    omega
  refine ⟨fun k h h' => ?_, shift ▸ taken.allowed, shift ▸ taken.ends⟩
  by_cases early : k < start + front.length
  · have := inner.inside k h early
    omega
  · exact taken.inside k (by omega) (by omega)

/-- The stretch that an inner block takes is what belongs to the entry in front of it. -/
theorem content_of_taken {done : List Entry} (parts : entries = done ++ entry :: (stretch ++ back))
    (bare : entry.value = "")
    (taken : Taken entries (Outline.level entries done.length + 1) (done.length + 1) stretch back) :
    content entries (entry, done.length) =
      .group (Tree.ofEntries
        (bindings entries (Outline.level entries done.length + 1) (done.length + 1) stretch)) := by
  rw [content_of_bare done.length bare, mapping, ← Tree.ofEntries_eq_collect, bindings]
  rw [members_of_stretch parts bare]
  · intro k h h'
    exact taken.inside k h h'
  · exact taken.ends.imp_right Nat.lt_succ_iff.1

end

theorem Reads.taken {tab : List Char} {entries : List Entry} {level : Nat} {tree : Tree}
    {lines left : List Line} {outcome : Except Line Tree}
    (reads : Reads tab level tree lines outcome left) :
    ∀ {out : Tree} (done : List Entry), outcome = .ok out →
      entries = done ++ lineEntries tab lines →
      level ≤ limit entries done.length → Outline.level entries done.length ≤ level →
      ∃ stretch, lineEntries tab lines = stretch ++ lineEntries tab left ∧
        Taken entries level done.length stretch (lineEntries tab left) ∧
        out = tree.insertAll (bindings entries level done.length stretch) := by
  induction reads with
  | nothing =>
    rintro _ done ⟨⟩ - allowed -
    exact ⟨[], rfl, .nil allowed (.inl rfl), rfl⟩
  | passed kind _ ih =>
    intro out done ok parts allowed reached
    rw [lineEntries_passed kind] at parts ⊢
    exact ih done ok parts allowed reached
  | malformed => rintro _ _ ⟨⟩
  | @shallow level tree line rest entry kind outside =>
    rintro _ done ⟨⟩ parts allowed -
    -- the level of an entry is at most its depth, so this one stands further out than the block
    have here : entries[done.length]? = some entry := by
      simp [parts, lineEntries_entry kind]
    have := level_of_getElem? here
    exact ⟨[], rfl, .nil allowed (.inr (by omega)), rfl⟩
  | @scalar level tree line rest left entry outcome kind inside filled _ ih =>
    intro out done ok parts allowed reached
    rw [lineEntries_entry kind] at parts ⊢
    have here : entries[done.length]? = some entry := by simp [parts]
    have same := level_of_reached parts inside allowed reached
    -- a text does not let the next entry go further in
    have next := limit_succ_of_filled here filled
    have bound := level_le_limit entries (done.length + 1)
    obtain ⟨stretch, split, taken, result⟩ := ih (done ++ [entry]) ok
      (by simpa using parts) (by simp [next, same]) (by simpa [next, same] using bound)
    simp only [List.length_append, List.length_singleton] at taken result
    refine ⟨entry :: stretch, by rw [split]; rfl, taken.cons same, ?_⟩
    rw [bindings_cons_of_eq same, binding, content_of_filled done.length filled]
    exact result
  | @group level tree children line rest middle left entry outcome kind inside bare _ _ ihInner
      ihNext =>
    intro out done ok parts allowed reached
    rw [lineEntries_entry kind] at parts ⊢
    have here : entries[done.length]? = some entry := by simp [parts]
    have same := level_of_reached parts inside allowed reached
    have next := limit_succ_of_bare here bare
    have bound := level_le_limit entries (done.length + 1)
    obtain ⟨front, split, inner, filled⟩ := ihInner (done ++ [entry]) rfl
      (by simpa using parts) (by simp [next, same]) (by simpa [next, same] using bound)
    simp only [List.length_append, List.length_singleton] at inner filled
    have shift : (done ++ entry :: front).length = done.length + 1 + front.length := by
      simp only [List.length_append, List.length_cons]
      omega
    -- behind the inner block the level of this one is allowed, and nothing further in comes next
    have behindAllowed := Nat.le_of_succ_le inner.allowed
    have behindReached : Outline.level entries (done.length + 1 + front.length) ≤ level := by
      obtain finished | less := inner.ends
      · rw [level_of_length_le]
        · exact Nat.zero_le _
        · exact Nat.le_of_eq (by rw [← shift, parts, split, finished, List.append_nil])
      · exact Nat.lt_succ_iff.1 less
    rw [← shift] at behindAllowed behindReached
    obtain ⟨behind, split', taken, result⟩ :=
      ihNext (done ++ entry :: front) ok (by simpa [split] using parts) behindAllowed behindReached
    rw [shift] at taken result
    refine ⟨entry :: (front ++ behind), by rw [split, split']; simp, ?_, ?_⟩
    · exact (Taken.append (split' ▸ inner) taken).cons same
    -- the stretch of the inner block binds nothing here; it is what the entry itself stands for
    · rw [bindings_cons_of_eq same, bindings_append, bindings_of_deeper inner, List.nil_append]
      have held : content entries (entry, done.length) = _ :=
        content_of_taken (by rw [parts, split]) bare (same ▸ inner)
      rw [same] at held
      rw [binding, held, result, filled]
      rfl
  | failed => rintro _ _ ⟨⟩

/-- The tree of a sheet is the tree of its outline. -/
theorem parseWith_eq_outline {options : Options} {text : String} {tree : Tree}
    (parsed : (parseWith options.tab text).result = .ok tree) :
    tree = Outline.tree (entriesOf options.tab text) := by
  obtain ⟨left, reads⟩ := reads_of_parseWith parsed
  obtain ⟨stretch, split, taken, result⟩ := reads.taken [] rfl
    (by rw [lineEntries_ofText, List.nil_append]) (Nat.zero_le _)
    (level_le_limit _ 0)
  -- no entry stands further out than the root, so nothing is left
  have finished := taken.ends.resolve_right (Nat.not_lt_zero _)
  rw [finished, List.append_nil, lineEntries_ofText] at split
  rw [result, ← split]
  exact Tree.ofEntries_eq_collect _

theorem parseWith_eq_outline_regiven :
    (parseWith Options.default.tab "a:\n\t\t\tb: 1\n# note\n\tc:\n\t\td: 2\nb: x\na:\n\tb: 3").result =
        .ok [("a", .group [("b", .scalar "3")]), ("b", .scalar "x")] ∧
      [("a", .group [("b", .scalar "3")]), ("b", .scalar "x")] =
        Outline.tree (entriesOf Options.default.tab
          "a:\n\t\t\tb: 1\n# note\n\tc:\n\t\td: 2\nb: x\na:\n\tb: 3") := by
  have parsed : (parseWith Options.default.tab
      "a:\n\t\t\tb: 1\n# note\n\tc:\n\t\td: 2\nb: x\na:\n\tb: 3").result =
        .ok [("a", .group [("b", .scalar "3")]), ("b", .scalar "x")] := by cbv
  exact ⟨parsed, parseWith_eq_outline parsed⟩

end Varsheet.Document
