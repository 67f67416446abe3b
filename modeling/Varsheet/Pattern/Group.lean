import Varsheet.Pattern.Mode
import Varsheet.Text.Alphanumeric

/-!
# Groups of patterns

What an opening parenthesis starts: a group, which can have a name or a mode of its own, or a change of
the mode that holds up to the end of the group around it.

* `isGroupName` : the names that groups can have
* `Opening` : what is opened
* `takeOpening?` : the opening of a group or a change of the mode
-/

namespace Varsheet.Pattern

/-- Whether a text can name a group: letters, digits, points and brackets, of which a letter comes
first. The underscore is a letter here. -/
def isGroupName : List Char → Bool
  | [] => false
  | first :: rest =>
    (first = '_' || Text.isAlphabetic first) &&
      rest.all fun c => c = '_' || c = '.' || c = '[' || c = ']' || Text.isAlphanumeric c

/-- What an opening parenthesis starts. -/
inductive Opening where
  /-- A group that is read in the given mode. -/
  | group (mode : Mode) (name : Option (List Char))
  /-- Nothing but a change to the given mode. -/
  | change (mode : Mode)
deriving DecidableEq, Repr

/-- A group with a name, from behind the angle bracket before the name. -/
def takeNamedGroup? (mode : Mode) (text : List Char) : Option (Opening × List Char) :=
  let name := text.takeWhile (· ≠ '>')
  match text.dropWhile (· ≠ '>') with
  | _ :: rest => if isGroupName name then some (.group mode (some name), rest) else none
  | [] => none

/-- A change of the mode, for a group of its own if a colon ends it. -/
def takeChange? (mode : Mode) (text : List Char) : Option (Opening × List Char) :=
  let ends := fun c => c = ':' ∨ c = ')'
  let letters := text.takeWhile fun c => ¬ ends c
  match text.dropWhile fun c => ¬ ends c with
  | ':' :: rest => (mode.change? letters).map fun mode => (.group mode none, rest)
  | ')' :: rest =>
    if letters = [] then none else (mode.change? letters).map fun mode => (.change mode, rest)
  | _ => none

/-- What an opening parenthesis starts, from behind it. Looking ahead or behind is not known. -/
def takeOpening? (mode : Mode) (text : List Char) : Option (Opening × List Char) :=
  match mode.skip text with
  | '?' :: 'P' :: '<' :: rest => takeNamedGroup? mode rest
  | '?' :: '<' :: rest => takeNamedGroup? mode rest
  | '?' :: rest => takeChange? mode rest
  | rest => some (.group mode none, rest)

theorem length_takeNamedGroup?_le {mode : Mode} {text rest : List Char} {opening : Opening}
    (h : takeNamedGroup? mode text = some (opening, rest)) : rest.length ≤ text.length := by
  unfold takeNamedGroup? at h
  have hdrop := (List.dropWhile_suffix (fun c => c ≠ '>') (l := text)).length_le
  simp only at h
  split at h
  · rename_i left hleft
    rw [hleft] at hdrop
    split at h
    · simp only [Option.some.injEq, Prod.mk.injEq] at h
      rw [← h.2]
      exact Nat.le_of_succ_le hdrop
    · simp at h
  · simp at h

theorem length_takeChange?_le {mode : Mode} {text rest : List Char} {opening : Opening}
    (h : takeChange? mode text = some (opening, rest)) : rest.length ≤ text.length := by
  unfold takeChange? at h
  have hdrop := (List.dropWhile_suffix (fun c => ¬ (c = ':' ∨ c = ')')) (l := text)).length_le
  simp only at h
  split at h
  · rename_i left hleft
    rw [hleft] at hdrop
    obtain ⟨_, _, h⟩ := Option.map_eq_some_iff.1 h
    simp only [Prod.mk.injEq] at h
    rw [← h.2]
    exact Nat.le_of_succ_le hdrop
  · rename_i left hleft
    rw [hleft] at hdrop
    split at h
    · simp at h
    · obtain ⟨_, _, h⟩ := Option.map_eq_some_iff.1 h
      simp only [Prod.mk.injEq] at h
      rw [← h.2]
      exact Nat.le_of_succ_le hdrop
  · simp at h

theorem length_takeOpening?_le {mode : Mode} {text rest : List Char} {opening : Opening}
    (h : takeOpening? mode text = some (opening, rest)) : rest.length ≤ text.length := by
  unfold takeOpening? at h
  have hskip := mode.length_skip_le text
  split at h
  · rename_i left hleft
    rw [hleft] at hskip
    have := length_takeNamedGroup?_le h
    simp only [List.length_cons] at hskip
    omega
  · rename_i left hleft
    rw [hleft] at hskip
    have := length_takeNamedGroup?_le h
    simp only [List.length_cons] at hskip
    omega
  · rename_i left _ _ hleft
    rw [hleft] at hskip
    have := length_takeChange?_le h
    simp only [List.length_cons] at hskip
    omega
  · simp only [Option.some.injEq, Prod.mk.injEq] at h
    rw [← h.2]
    exact hskip

end Varsheet.Pattern
