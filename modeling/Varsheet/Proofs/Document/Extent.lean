import Varsheet.Proofs.Document.Kinds
import Varsheet.Proofs.Document.Reading

/-!
# How far a block reaches

A block goes on up to the first line that it cannot take: an entry outside of it, or a line without
its colon. Which blocks have been opened and left on the way makes no difference.

* `continues` : the lines that a block takes
* `Reads.left_eq_dropWhile` : a block stops at the first other line
* `Reads.outcome_eq_error_iff` : it fails exactly if that line lacks its colon
-/

namespace Varsheet.Document

/-- The block at `level` goes on behind the line, which is passed over or is an entry inside of it. -/
def continues (tab : List Char) (level : Nat) (line : Line) : Bool :=
  match classify tab line.text with
  | .passed => true
  | .malformed => false
  | .entry entry => level ≤ entry.depth

variable {tab : List Char} {level : Nat} {line : Line}

theorem continues_of_passed (kind : classify tab line.text = .passed) :
    continues tab level line = true := by
  simp only [continues, kind]

theorem continues_of_malformed (kind : classify tab line.text = .malformed) :
    continues tab level line = false := by
  simp only [continues, kind]

theorem continues_of_entry {entry : Entry} (kind : classify tab line.text = .entry entry) :
    continues tab level line = decide (level ≤ entry.depth) := by
  simp only [continues, kind]

/-- What an inner block takes, the block around it takes as well. -/
theorem continues_of_continues_succ (h : continues tab (level + 1) line = true) :
    continues tab level line = true := by
  cases kind : classify tab line.text with
  | passed => exact continues_of_passed kind
  | malformed => rw [continues_of_malformed kind] at h; cases h
  | entry entry =>
    rw [continues_of_entry kind, decide_eq_true_eq] at h ⊢
    omega

/-- The root takes every line that has its colon. -/
theorem continues_zero (tab : List Char) (line : Line) :
    continues tab 0 line = !decide (LacksColon line.text) := by
  have bad := classify_eq_malformed_iff tab line.text
  cases kind : classify tab line.text with
  | passed => simp [continues, kind, ← bad]
  | malformed => simp [continues, kind, ← bad]
  | entry entry => simp [continues, kind, ← bad]

theorem dropWhile_dropWhile_of_imp {α : Type} {p q : α → Bool} (h : ∀ a, p a = true → q a = true)
    (list : List α) : (list.dropWhile p).dropWhile q = list.dropWhile q := by
  induction list with
  | nil => rfl
  | cons a rest ih =>
    by_cases hp : p a = true
    · rw [List.dropWhile_cons_of_pos hp, List.dropWhile_cons_of_pos (h a hp), ih]
    · rw [List.dropWhile_cons_of_neg hp]

variable {tree : Tree} {lines left : List Line} {outcome : Except Line Tree}

theorem Reads.outcome_eq_error_iff (reads : Reads tab level tree lines outcome left) (bad : Line) :
    outcome = .error bad ↔ left.head? = some bad ∧ classify tab bad.text = .malformed := by
  -- a failing block leaves the line that lacks its colon in front, and the blocks around it keep it there
  induction reads with
  | nothing => simp
  | passed _ _ ih => exact ih
  | @malformed level tree line rest kind =>
    constructor
    · rintro ⟨⟩
      exact ⟨rfl, kind⟩
    · rintro ⟨⟨⟩, -⟩
      rfl
  | @shallow level tree line rest entry kind _ =>
    constructor
    · rintro ⟨⟩
    · rintro ⟨⟨⟩, bad⟩
      rw [kind] at bad
      cases bad
  | scalar _ _ _ _ ih => exact ih
  | group _ _ _ _ _ _ ih => exact ih
  | failed _ _ _ _ ih => exact ih

theorem Reads.left_eq_dropWhile (reads : Reads tab level tree lines outcome left) :
    left = lines.dropWhile (continues tab level) := by
  induction reads with
  | nothing => rfl
  | passed kind _ ih => rw [List.dropWhile_cons_of_pos (continues_of_passed kind), ih]
  | malformed kind => rw [List.dropWhile_cons_of_neg (by simp [continues_of_malformed kind])]
  | shallow kind outside =>
    rw [List.dropWhile_cons_of_neg (by simpa [continues_of_entry kind] using outside)]
  | scalar kind inside _ _ ih =>
    rw [List.dropWhile_cons_of_pos (by simpa [continues_of_entry kind] using inside), ih]
  | group kind inside _ _ _ ihInner ihNext =>
    rw [List.dropWhile_cons_of_pos (by simpa [continues_of_entry kind] using inside), ihNext, ihInner]
    -- the inner block stops at every place where this one would have stopped
    exact dropWhile_dropWhile_of_imp (fun _ => continues_of_continues_succ) _
  | @failed level tree line bad rest left entry kind inside _ inner ih =>
    rw [List.dropWhile_cons_of_pos (by simpa [continues_of_entry kind] using inside)]
    rw [← dropWhile_dropWhile_of_imp (fun _ => continues_of_continues_succ) rest, ← ih]
    -- the line that the inner block failed at ends this one as well
    obtain ⟨first, kind⟩ := (inner.outcome_eq_error_iff bad).1 rfl
    obtain ⟨behind, rfl⟩ := List.head?_eq_some_iff.1 first
    rw [List.dropWhile_cons_of_neg (by simp [continues_of_malformed kind])]

end Varsheet.Document
