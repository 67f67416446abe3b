import Varsheet.Pattern.Nesting
import Varsheet.Pattern.Symbol

/-!
# Classes in brackets

A class lists characters, ranges and further classes, and can be built from two others by an operation:
`[a-z_]`, `[^\d]`, `[[:alpha:]--[aeiou]]`.

* `takeMember?` : a character, a class with a name or a range
* `takeNamed?` : a class of characters by its name
* `Layer` : a class that is open
* `takeClass?` : a class, with its depth
-/

namespace Varsheet.Pattern

/-! ## Members -/

/-- Whether a symbol can be a member of a class. Among bytes, only a character of one byte can. -/
def Symbol.isMember (mode : Mode) : Symbol → Bool
  | .char c => mode.unicode || c.toNat < 128
  | .anyOf => true
  | .place => false

/-- A symbol inside of a class, where only the backslash has a meaning. -/
def takeSymbol? (mode : Mode) : List Char → Option (Symbol × List Char)
  | [] => none
  | '\\' :: rest => takeEscape? mode rest
  | c :: rest => some (.char c, rest)

/-- Whether two symbols are the ends of a range. -/
def isRange (mode : Mode) : Symbol → Symbol → Bool
  | .char low, .char high =>
    low ≤ high && (Symbol.char low).isMember mode && (Symbol.char high).isMember mode
  | _, _ => false

/-- What follows a member of a class: a symbol or a range. A hyphen stands for itself at the end of a
class, and two of them are an operation. -/
def takeMember? (mode : Mode) (text : List Char) : Option (List Char) :=
  match takeSymbol? mode text with
  | none => none
  | some (first, rest) =>
    match mode.skip rest with
    | '-' :: behind =>
      if mode.next? behind = some ']' ∨ mode.next? behind = some '-' then
        if first.isMember mode then some ('-' :: behind) else none
      else
        match takeSymbol? mode (mode.skip behind) with
        | some (last, left) => if isRange mode first last then some left else none
        | none => none
    | after => if first.isMember mode then some after else none

/-- The names of classes. -/
def classNames : List String :=
  ["alnum", "alpha", "ascii", "blank", "cntrl", "digit", "graph", "lower", "print", "punct", "space",
    "upper", "word", "xdigit"]

/-- What follows a name of a class and its end. -/
def takeClassName? (text : List Char) : Option (List Char) :=
  match text.dropWhile (· ≠ ':') with
  | ':' :: ']' :: rest =>
    if classNames.contains (String.ofList (text.takeWhile (· ≠ ':'))) then some rest else none
  | _ => none

/-- A class by its name, from behind the opening bracket: whether it leaves the named characters out,
and what follows it. -/
def takeNamed? : List Char → Option (Bool × List Char)
  | ':' :: '^' :: text => (takeClassName? text).map fun rest => (true, rest)
  | ':' :: text => (takeClassName? text).map fun rest => (false, rest)
  | _ => none

theorem length_takeSymbol? {mode : Mode} {text rest : List Char} {symbol : Symbol}
    (h : takeSymbol? mode text = some (symbol, rest)) : rest.length < text.length := by
  unfold takeSymbol? at h
  split at h
  · simp at h
  · have := length_takeEscape? h
    simp only [List.length_cons]
    omega
  · simp only [Option.some.injEq, Prod.mk.injEq] at h
    rw [← h.2]
    simp

theorem length_takeMember? {mode : Mode} {text rest : List Char}
    (h : takeMember? mode text = some rest) : rest.length < text.length := by
  unfold takeMember? at h
  split at h
  · simp at h
  · rename_i first after hfirst
    have hshort := length_takeSymbol? hfirst
    have hskip := mode.length_skip_le after
    split at h
    · rename_i behind hbehind
      rw [hbehind] at hskip
      split at h
      · split at h
        · simp only [Option.some.injEq] at h
          rw [← h]
          omega
        · simp at h
      · split at h
        · rename_i last left hlast
          have := length_takeSymbol? hlast
          have := mode.length_skip_le behind
          simp only [List.length_cons] at hskip
          split at h
          · simp only [Option.some.injEq] at h
            rw [← h]
            omega
          · simp at h
        · simp at h
    · split at h
      · simp only [Option.some.injEq] at h
        rw [← h]
        omega
      · simp at h

theorem length_takeClassName? {text rest : List Char} (h : takeClassName? text = some rest) :
    rest.length < text.length := by
  unfold takeClassName? at h
  split at h
  · rename_i left hleft
    have := (List.dropWhile_suffix (fun c => c ≠ ':') (l := text)).length_le
    rw [hleft] at this
    simp only [List.length_cons] at this
    split at h
    · simp only [Option.some.injEq] at h
      rw [← h]
      omega
    · simp at h
  · simp at h

theorem length_takeNamed? {text rest : List Char} {out : Bool}
    (h : takeNamed? text = some (out, rest)) : rest.length < text.length := by
  unfold takeNamed? at h
  split at h
  · obtain ⟨left, hleft, h⟩ := Option.map_eq_some_iff.1 h
    have := length_takeClassName? hleft
    simp only [Prod.mk.injEq] at h
    rw [← h.2]
    simp only [List.length_cons]
    omega
  · obtain ⟨left, hleft, h⟩ := Option.map_eq_some_iff.1 h
    have := length_takeClassName? hleft
    simp only [Prod.mk.injEq] at h
    rw [← h.2]
    simp only [List.length_cons]
    omega
  · simp at h

/-! ## Classes -/

/-- A class that is open: how deep the left side of its operation is, if it has one, and the members
that follow. -/
structure Layer where
  left : Option Nat := none
  members : Row := {}
deriving DecidableEq, Repr

namespace Layer

/-- How deep a class is inside of its brackets. -/
def depth (layer : Layer) : Nat :=
  match layer.left with
  | none => layer.members.depth
  | some left => max left layer.members.depth + 1

/-- A class with one member more. -/
def add (layer : Layer) (depth : Nat) : Layer :=
  { layer with members := layer.members.add depth }

/-- A class at an operation, of which everything so far is the left side. -/
def operate (layer : Layer) : Layer :=
  { left := some layer.depth }

end Layer

/-- The hyphens at the front of a class, which stand for themselves, as members of it. -/
def takeHyphens (mode : Mode) (members : Row) (text : List Char) : Row × List Char :=
  match h : mode.skip text with
  | '-' :: rest =>
    have := Mode.length_lt_of_skip h
    takeHyphens mode (members.add 0) rest
  | other => (members, other)
termination_by text.length

theorem length_takeHyphens_le (mode : Mode) (members : Row) (text : List Char) :
    (takeHyphens mode members text).2.length ≤ text.length := by
  fun_induction takeHyphens mode members text with
  | case1 members text rest h ih =>
    have := Mode.length_lt_of_skip h
    omega
  | case2 members text _ =>
    exact mode.length_skip_le text

/-- The start of a class, from behind its opening bracket: a caret, which is refused among bytes,
where a class that leaves characters out would hold parts of characters, and the hyphens or the closing
bracket that stand for themselves there. -/
def takeStart? (mode : Mode) (text : List Char) : Option (Layer × List Char) :=
  let inner :=
    match mode.skip text with
    | '^' :: rest => if mode.unicode then some rest else none
    | other => some other
  inner.map fun inner =>
    match takeHyphens mode {} inner with
    | (⟨0, _⟩, ']' :: rest) => (Layer.add {} 0, rest)
    | (members, rest) => ({ members }, rest)

theorem length_takeStart?_le {mode : Mode} {text rest : List Char} {layer : Layer}
    (h : takeStart? mode text = some (layer, rest)) : rest.length ≤ text.length := by
  unfold takeStart? at h
  obtain ⟨inner, hinner, h⟩ := Option.map_eq_some_iff.1 h
  have hshort : inner.length ≤ text.length := by
    have := mode.length_skip_le text
    split at hinner
    · rename_i after hafter
      rw [hafter] at this
      simp only [List.length_cons] at this
      split at hinner
      · simp only [Option.some.injEq] at hinner
        rw [← hinner]
        omega
      · simp at hinner
    · simp only [Option.some.injEq] at hinner
      rw [← hinner]
      exact this
  have hhyphens := length_takeHyphens_le mode {} inner
  split at h
  · rename_i hclose
    rw [hclose] at hhyphens
    simp only [List.length_cons] at hhyphens
    simp only [Prod.mk.injEq] at h
    rw [← h.2]
    omega
  · rename_i members after _ htaken
    rw [htaken] at hhyphens
    simp only [Prod.mk.injEq] at h
    rw [← h.2]
    exact Nat.le_trans hhyphens hshort

/-- The rest of a class, which stands in the `outer` ones: its depth with its brackets, and what follows
the closing one. -/
def takeRest? (mode : Mode) (outer : List Layer) (layer : Layer) (text : List Char) :
    Option (Nat × List Char) :=
  match hskip : mode.skip text with
  | [] => none
  | '[' :: inner =>
    have := Mode.length_lt_of_skip hskip
    match hnamed : takeNamed? inner with
    | some (out, rest) =>
      have := length_takeNamed? hnamed
      if out ∧ ¬ mode.unicode then none else takeRest? mode outer (layer.add 0) rest
    | none =>
      match hstart : takeStart? mode inner with
      | some (nested, rest) =>
        have := length_takeStart?_le hstart
        takeRest? mode (layer :: outer) nested rest
      | none => none
  | ']' :: rest =>
    have := Mode.length_lt_of_skip hskip
    match outer with
    | [] => some (layer.depth + 1, rest)
    | up :: further => takeRest? mode further (up.add (layer.depth + 1)) rest
  | '&' :: '&' :: rest =>
    have : rest.length < text.length := Nat.lt_of_succ_lt (Mode.length_lt_of_skip hskip)
    takeRest? mode outer layer.operate rest
  | '-' :: '-' :: rest =>
    have : rest.length < text.length := Nat.lt_of_succ_lt (Mode.length_lt_of_skip hskip)
    takeRest? mode outer layer.operate rest
  | '~' :: '~' :: rest =>
    have : rest.length < text.length := Nat.lt_of_succ_lt (Mode.length_lt_of_skip hskip)
    takeRest? mode outer layer.operate rest
  | other =>
    have := Mode.length_le_of_skip hskip
    match hmember : takeMember? mode other with
    | some rest =>
      have := length_takeMember? hmember
      takeRest? mode outer (layer.add 0) rest
    | none => none
termination_by text.length

theorem length_takeRest? {mode : Mode} {outer : List Layer} {layer : Layer} {text rest : List Char}
    {depth : Nat} (h : takeRest? mode outer layer text = some (depth, rest)) :
    rest.length < text.length := by
  fun_induction takeRest? mode outer layer text generalizing depth rest with
  | case1 => simp at h
  | case2 => simp at h
  | case3 _ _ _ _ _ _ _ _ _ _ _ ih =>
    have := ih h
    omega
  | case4 _ _ _ _ _ _ _ _ _ _ _ ih =>
    have := ih h
    omega
  | case5 => simp at h
  | case6 _ _ _ _ hshort =>
    simp only [Option.some.injEq, Prod.mk.injEq] at h
    rw [← h.2]
    exact hshort
  | case7 _ _ _ _ _ _ _ ih =>
    have := ih h
    omega
  | case8 _ _ _ _ _ _ ih | case9 _ _ _ _ _ _ ih | case10 _ _ _ _ _ _ ih =>
    have := ih h
    omega
  | case11 _ _ _ _ _ _ _ _ _ _ _ _ _ ih =>
    have := ih h
    omega
  | case12 => simp at h

/-- A class in brackets, from behind the opening one: its depth, and what follows it. -/
def takeClass? (mode : Mode) (text : List Char) : Option (Nat × List Char) :=
  match takeStart? mode text with
  | some (layer, rest) => takeRest? mode [] layer rest
  | none => none

theorem length_takeClass? {mode : Mode} {text rest : List Char} {depth : Nat}
    (h : takeClass? mode text = some (depth, rest)) : rest.length < text.length := by
  unfold takeClass? at h
  split at h
  · rename_i hstart
    exact Nat.lt_of_lt_of_le (length_takeRest? h) (length_takeStart?_le hstart)
  · simp at h

end Varsheet.Pattern
