import Varsheet.Document.Entry
import Varsheet.Proofs.Tree.Binding
import Varsheet.Text.Lines

/-!
# The outline of a sheet

A rule that gives the tree of a list of entries without reading them as blocks. Every entry has a
level, which depends only on the entries before it, and belongs to the root or to one earlier entry.

* `Outline.limit`, `Outline.level` : how far in an entry may stand, and how far in it does stand
* `Outline.Owns` : an entry belongs to the nearest entry before it that opens its level
* `Outline.mapping`, `Outline.tree` : the tree that follows
* `Outline.exists_opens_between` : a level is only reached through an entry that opens it
* `Outline.members_of_stretch` : what belongs to an entry is a stretch right behind it
-/

namespace Varsheet.Document

/-- The entry that a line holds, unless it is passed over or malformed. -/
def Entry.ofLine? (tab line : List Char) : Option Entry :=
  match classify tab line with
  | .entry entry => some entry
  | _ => none

def entriesOf (tab text : String) : List Entry :=
  (Text.lines text.toList).filterMap (Entry.ofLine? tab.toList)

namespace Outline

/-- How far in the entry at a place may stand. The first entry stands at the root, and only an entry
without text lets the next one go a level further in. -/
def limit (entries : List Entry) : Nat → Nat
  | 0 => 0
  | i + 1 =>
    match entries[i]? with
    | some entry =>
      if entry.value = "" then min entry.depth (limit entries i) + 1
      else min entry.depth (limit entries i)
    | none => 0

/-- How far in the entry at a place stands: as far as it is indented, up to the limit. -/
def level (entries : List Entry) (i : Nat) : Nat :=
  match entries[i]? with
  | some entry => min entry.depth (limit entries i)
  | none => 0

/-- The entry at a place has no text. -/
def Opens (entries : List Entry) (i : Nat) : Prop :=
  ∃ entry ∈ entries[i]?, entry.value = ""

instance (entries : List Entry) (i : Nat) : Decidable (Opens entries i) :=
  inferInstanceAs (Decidable (∃ entry ∈ entries[i]?, entry.value = ""))

/-- The entry at place `i` belongs to the root, if its level is zero, or else to the nearest entry
without text before it that stands one level further out. -/
def Owns (entries : List Entry) (owner : Option Nat) (i : Nat) : Prop :=
  match owner with
  | none => level entries i = 0
  | some j =>
    j < i ∧ Opens entries j ∧ level entries j + 1 = level entries i ∧
      ∀ k < i, j < k → ¬ (Opens entries k ∧ level entries k + 1 = level entries i)

instance (entries : List Entry) (owner : Option Nat) (i : Nat) :
    Decidable (Owns entries owner i) :=
  match owner with
  | none => inferInstanceAs (Decidable (level entries i = 0))
  | some j => inferInstanceAs (Decidable (j < i ∧ Opens entries j ∧
      level entries j + 1 = level entries i ∧
        ∀ k < i, j < k → ¬ (Opens entries k ∧ level entries k + 1 = level entries i)))

/-- The entries that belong to an owner, with their places. -/
def members (entries : List Entry) (owner : Option Nat) : List (Entry × Nat) :=
  entries.zipIdx.filter fun member => Owns entries owner member.2

theorem lt_of_mem_members {entries : List Entry} {i : Nat} {member : Entry × Nat}
    (h : member ∈ members entries (some i)) : i < member.2 ∧ member.2 < entries.length := by
  obtain ⟨inside, owned⟩ := List.mem_filter.1 h
  have owned := of_decide_eq_true owned
  exact ⟨owned.1, List.snd_lt_of_mem_zipIdx inside⟩

/-- What an entry stands for: its text, or the mapping of the entries that belong to it. -/
def content (entries : List Entry) (member : Entry × Nat) : Value :=
  if member.1.value = "" then
    .group (Tree.collect ((members entries (some member.2)).attach.map fun inner =>
      (inner.1.1.key, content entries inner.1)))
  else .scalar member.1.value
termination_by entries.length - member.2
decreasing_by
  have := lt_of_mem_members inner.2
  omega

def binding (entries : List Entry) (member : Entry × Nat) : String × Value :=
  (member.1.key, content entries member)

/-- The mapping of the entries that belong to an owner. A key stands where it first occurs and is bound
by its last entry. -/
def mapping (entries : List Entry) (owner : Option Nat) : Tree :=
  Tree.collect ((members entries owner).map (binding entries))

def tree (entries : List Entry) : Tree :=
  mapping entries none

theorem content_of_bare {entries : List Entry} {entry : Entry} (i : Nat) (bare : entry.value = "") :
    content entries (entry, i) = .group (mapping entries (some i)) := by
  rw [content, if_pos bare, mapping]
  congr 2
  exact List.attach_map_val (f := binding entries)

theorem content_of_filled {entries : List Entry} {entry : Entry} (i : Nat)
    (filled : entry.value ≠ "") : content entries (entry, i) = .scalar entry.value := by
  rw [content, if_neg filled]

/-! ## Levels -/

variable {entries : List Entry} {entry : Entry} {i j k d : Nat}

theorem level_of_getElem? (h : entries[i]? = some entry) :
    level entries i = min entry.depth (limit entries i) := by
  simp only [level, h]

theorem limit_succ_of_bare (h : entries[i]? = some entry) (bare : entry.value = "") :
    limit entries (i + 1) = level entries i + 1 := by
  simp only [limit, level, h, bare, if_true]

theorem limit_succ_of_filled (h : entries[i]? = some entry) (filled : entry.value ≠ "") :
    limit entries (i + 1) = level entries i := by
  simp only [limit, level, h, filled, if_false]

theorem level_le_limit (entries : List Entry) (i : Nat) : level entries i ≤ limit entries i := by
  unfold level
  split
  · exact Nat.min_le_right _ _
  · exact Nat.zero_le _

theorem level_of_length_le (h : entries.length ≤ i) : level entries i = 0 := by
  simp only [level, List.getElem?_eq_none h]

theorem limit_succ_cases (entries : List Entry) (i : Nat) :
    limit entries (i + 1) ≤ level entries i ∨
      Opens entries i ∧ limit entries (i + 1) = level entries i + 1 := by
  cases h : entries[i]? with
  | none => left; simp [limit, h]
  | some entry =>
    by_cases bare : entry.value = ""
    · exact .inr ⟨⟨entry, h, bare⟩, limit_succ_of_bare h bare⟩
    · exact .inl (Nat.le_of_eq (limit_succ_of_filled h bare))

/-- Between an entry at most `d` far in and a place where more is allowed, some entry at level `d` has
opened the next one. -/
theorem exists_opens_between (low : level entries j ≤ d) (later : j < k)
    (high : d < limit entries k) :
    ∃ l, j ≤ l ∧ l < k ∧ Opens entries l ∧ level entries l = d := by
  induction k with
  | zero => exact absurd later (Nat.not_lt_zero j)
  | succ k ih =>
    by_cases here : Opens entries k ∧ level entries k = d
    · exact ⟨k, by omega, Nat.lt_succ_self k, here⟩
    -- the entry at `k` did not open the level, so it stands in it already
    · have deeper : d < level entries k := by
        obtain h | ⟨opens, h⟩ := limit_succ_cases entries k
        · omega
        · have : level entries k ≠ d := fun e => here ⟨opens, e⟩
          omega
      have earlier : j ≠ k := by
        rintro rfl
        omega
      obtain ⟨l, hjl, hlk, found⟩ :=
        ih (by omega) (Nat.lt_of_lt_of_le deeper (level_le_limit entries k))
      exact ⟨l, hjl, by omega, found⟩

/-! ## The stretch of an entry -/

/-- If the entries from `i` to `j` stand further in than the one at `i` and the one at `j` does not, then
what belongs to the entry at `i` lies between the two. -/
theorem owns_iff_of_stretch (opens : Opens entries i) (before : i < j)
    (inside : ∀ k, i < k → k < j → level entries i < level entries k)
    (ends : entries.length ≤ j ∨ level entries j ≤ level entries i) (present : k < entries.length) :
    Owns entries (some i) k ↔ i < k ∧ k < j ∧ level entries k = level entries i + 1 := by
  constructor
  · rintro ⟨later, -, next, nearest⟩
    refine ⟨later, ?_, next.symm⟩
    by_contra beyond
    have low : level entries j ≤ level entries i := ends.resolve_left (by omega)
    have past : j ≠ k := by
      rintro rfl
      omega
    have high : level entries i < limit entries k := by
      have := level_le_limit entries k
      omega
    -- a level that was left is opened anew before it is entered again
    obtain ⟨l, hjl, hlk, reopens, same⟩ := exists_opens_between low (by omega) high
    exact nearest l hlk (by omega) ⟨reopens, by omega⟩
  · rintro ⟨later, within, next⟩
    refine ⟨later, opens, next.symm, ?_⟩
    rintro l hlk hil ⟨-, same⟩
    have := inside l hil (by omega)
    omega

/-- What belongs to an entry without text is taken from the stretch of entries behind it that stand
further in. -/
theorem members_of_stretch {done front back : List Entry}
    (parts : entries = done ++ entry :: (front ++ back)) (bare : entry.value = "")
    (inside : ∀ k, done.length < k → k < done.length + 1 + front.length →
      level entries done.length < level entries k)
    (ends : back = [] ∨
      level entries (done.length + 1 + front.length) ≤ level entries done.length) :
    members entries (some done.length) =
      (front.zipIdx (done.length + 1)).filter fun member =>
        level entries member.2 = level entries done.length + 1 := by
  have size : entries.length = done.length + 1 + front.length + back.length := by
    simp only [parts, List.length_append, List.length_cons]
    omega
  have opens : Opens entries done.length := ⟨entry, by simp [parts], bare⟩
  have ends : entries.length ≤ done.length + 1 + front.length ∨
      level entries (done.length + 1 + front.length) ≤ level entries done.length :=
    ends.imp_left fun e => by simp [size, e]
  have owns {k : Nat} (present : k < entries.length) :=
    owns_iff_of_stretch opens (by omega) inside ends present
  -- the entries before, the entry itself, its stretch, and the entries behind
  have places : entries.zipIdx = done.zipIdx ++ ((entry, done.length) ::
      (front.zipIdx (done.length + 1) ++ back.zipIdx (done.length + 1 + front.length))) := by
    rw [parts, List.zipIdx_append, List.zipIdx_cons, List.zipIdx_append]
    simp
  have none_before : done.zipIdx.filter (fun member => Owns entries (some done.length) member.2) =
      [] := by
    refine List.filter_eq_nil_iff.2 fun member h => ?_
    have := List.snd_lt_of_mem_zipIdx h
    simp only [decide_eq_true_eq]
    exact fun owned => absurd owned.1 (by omega)
  have none_behind : (back.zipIdx (done.length + 1 + front.length)).filter
      (fun member => Owns entries (some done.length) member.2) = [] := by
    refine List.filter_eq_nil_iff.2 fun member h => ?_
    have := List.snd_lt_of_mem_zipIdx h
    have := List.le_snd_of_mem_zipIdx h
    simp only [decide_eq_true_eq]
    exact fun owned => absurd ((owns (by omega)).1 owned).2.1 (by omega)
  have itself : ¬ Owns entries (some done.length) done.length :=
    fun owned => Nat.lt_irrefl _ owned.1
  rw [members, places, List.filter_append, none_before, List.nil_append,
    List.filter_cons_of_neg (by simpa using itself), List.filter_append, none_behind,
    List.append_nil]
  refine List.filter_congr fun member h => ?_
  have := List.snd_lt_of_mem_zipIdx h
  have := List.le_snd_of_mem_zipIdx h
  rw [decide_eq_decide, owns (by omega)]
  constructor
  · rintro ⟨-, -, next⟩
    exact next
  · intro next
    exact ⟨by omega, by omega, next⟩

end Outline

end Varsheet.Document
