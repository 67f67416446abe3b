import Mathlib.Data.List.Basic
import Varsheet.Compile
import Varsheet.Proofs.Text.Lines

/-!
# Paths below the home directory

A path whose first component is `~` leads to a place below the home directory, however it is spelled: slashes and dots
that follow the `~` are taken away before the rest is put behind the home directory, so that what is put there never
starts at the root. In between, the rest stays as it was written.

* `Path.Component`, `Path.components` : the components of a path
* `Path.components_join` : what is put behind a directory adds its steps to the components
* `Path.exists_eq_append_core` : what is taken away from the rest of a path
* `Path.head?_components_eq_tilde_iff` : which paths have `~` as their first component
* `readSource_opens` : the path that is opened for a sheet
-/

namespace Varsheet.Path

/-! ## Components -/

/-- A component of a path: the root directory, or a piece. -/
inductive Component where
  | root
  | piece (name : List Char)
deriving DecidableEq, Repr

/-- The pieces of a path that make a step. -/
def steps (path : List Char) : List (List Char) :=
  (pieces path).filter fun piece => !leadsNowhere piece

/-- The component in front of all steps: the root directory, if the path starts with a slash, or a dot that is the
first piece. Most paths have none. -/
def start (path : List Char) : List Component :=
  if path.head? = some '/' then [.root]
  else if (pieces path).head? = some ['.'] then [.piece ['.']]
  else []

/-- The components of a path. -/
def components (path : List Char) : List Component :=
  start path ++ (steps path).map .piece

theorem slash_not_mem_of_mem_pieces {piece : List Char} (path : List Char) (member : piece ∈ pieces path) :
    '/' ∉ piece :=
  (Text.of_mem_splitAt member).1

theorem intercalate_pieces (path : List Char) : ['/'].intercalate (pieces path) = path := by
  rw [pieces, Text.splitAt_eq_splitOn, List.intercalate_splitOn]

theorem pieces_intercalate {parts : List (List Char)} (filled : parts ≠ [])
    (unslashed : ∀ part ∈ parts, '/' ∉ part) : pieces (['/'].intercalate parts) = parts := by
  rw [pieces, Text.splitAt_eq_splitOn, List.splitOn_intercalate '/' unslashed filled]

theorem pieces_append_slash (front back : List Char) :
    pieces (front ++ '/' :: back) = pieces front ++ pieces back := by
  simp only [pieces, Text.splitAt_eq_splitOn, List.splitOn_eq_splitOnP]
  exact List.splitOnP_append_cons front back (beq_self_eq_true '/')

theorem steps_append_slash (front back : List Char) : steps (front ++ '/' :: back) = steps front ++ steps back := by
  rw [steps, pieces_append_slash, List.filter_append, ← steps, ← steps]

@[simp] theorem steps_nil : steps [] = [] := rfl

/-- Where a path starts is decided before its second piece. -/
theorem start_append_slash (front back : List Char) : start (front ++ '/' :: back) = start (front ++ ['/']) := by
  cases front with
  | nil =>
    -- a slash in front makes the path start at the root
    rfl
  | cons c front =>
    have filled : pieces (c :: front) ≠ [] := Text.splitAt_ne_nil _ _
    simp only [start, pieces_append_slash, List.head?_append_of_ne_nil _ filled,
      List.head?_append_of_ne_nil _ (List.cons_ne_nil c front)]

theorem components_append_slash (front back : List Char) :
    components (front ++ '/' :: back) = components (front ++ ['/']) ++ (steps back).map .piece := by
  simp only [components, start_append_slash front back, steps_append_slash, steps_nil, List.append_nil,
    List.map_append, List.append_assoc]

/-- A slash at the end of a path makes no difference, unless it stands alone. -/
theorem components_slash_end {front : List Char} (filled : front ≠ []) :
    components (front ++ ['/']) = components front := by
  have same : start (front ++ ['/']) = start front := by
    have filled' : pieces front ≠ [] := Text.splitAt_ne_nil _ _
    simp only [start, pieces_append_slash, List.head?_append_of_ne_nil _ filled', List.head?_append_of_ne_nil _ filled]
  rw [components, same, steps_append_slash, steps_nil, List.append_nil, ← components]

/-! ## Joining -/

theorem join_eq {directory : List Char} (filled : directory ≠ []) (inner : List Char) :
    join directory inner = directory ++ (if directory.getLast? = some '/' then [] else ['/']) ++ inner := by
  unfold join
  split
  · rename_i absent
    exact absurd (List.getLast?_eq_none_iff.1 absent) filled
  · rename_i slash
    simp [slash]
  · rename_i c differs last
    have differs : c ≠ '/' := differs
    simp [last, differs]

/-- The directory keeps its components, and the inner path adds its steps. -/
theorem components_join {directory : List Char} (filled : directory ≠ []) (inner : List Char) :
    components (join directory inner) = components directory ++ (steps inner).map .piece := by
  rw [join_eq filled]
  split
  · rename_i slash
    obtain ⟨front, rfl⟩ := List.getLast?_eq_some_iff.1 slash
    simpa using components_append_slash front inner
  · rw [List.append_assoc, List.singleton_append, components_append_slash, components_slash_end filled]

/-! ## The rest of a path -/

/-- Nothing but slashes and dots. -/
def Idle (text : List Char) : Prop :=
  ∀ c ∈ text, c = '/' ∨ c = '.'

theorem Idle.append {front back : List Char} (first : Idle front) (second : Idle back) : Idle (front ++ back) :=
  List.forall_mem_append.2 ⟨first, second⟩

theorem idle_slash : Idle ['/'] := by simp [Idle]

theorem idle_intercalate {parts : List (List Char)} (nowhere : ∀ part ∈ parts, leadsNowhere part = true) :
    Idle (['/'].intercalate parts) := by
  intro c member
  by_contra other
  obtain ⟨notSlash, notDot⟩ := not_or.1 other
  refine Text.not_mem_intercalate (fun part inParts inPart => ?_) notSlash member
  -- a piece that leads nowhere has at most a dot in it
  obtain rfl | rfl : part = [] ∨ part = ['.'] := by simpa [leadsNowhere] using nowhere part inParts
  · cases inPart
  · exact notDot (List.mem_singleton.1 inPart)

theorem intercalate_append {front back : List (List Char)} (filled : front ≠ []) (filled' : back ≠ []) :
    ['/'].intercalate (front ++ back) = ['/'].intercalate front ++ '/' :: ['/'].intercalate back := by
  induction front with
  | nil => exact absurd rfl filled
  | cons part front inductionHypothesis =>
    cases front with
    | nil => simp [List.intercalate_cons_of_ne_nil filled']
    | cons next front =>
      have later := inductionHypothesis (List.cons_ne_nil _ _)
      rw [List.cons_append, List.intercalate_cons_of_ne_nil (by simp), later,
        List.intercalate_cons_of_ne_nil (List.cons_ne_nil _ _)]
      simp

/-- Pieces in front that lead nowhere are slashes and dots in front of the text. -/
theorem exists_idle_append_intercalate {lead : List (List Char)}
    (nowhere : ∀ part ∈ lead, leadsNowhere part = true) (parts : List (List Char)) :
    ∃ front, Idle front ∧ ['/'].intercalate (lead ++ parts) = front ++ ['/'].intercalate parts := by
  by_cases first : lead = []
  · exact ⟨[], nofun, by simp [first]⟩
  by_cases last : parts = []
  · exact ⟨_, idle_intercalate nowhere, by simp [last]⟩
  refine ⟨['/'].intercalate lead ++ ['/'], (idle_intercalate nowhere).append idle_slash, ?_⟩
  rw [intercalate_append first last]
  simp

/-- The same for pieces at the end. -/
theorem exists_intercalate_append_idle {trail : List (List Char)}
    (nowhere : ∀ part ∈ trail, leadsNowhere part = true) (parts : List (List Char)) :
    ∃ back, Idle back ∧ ['/'].intercalate (parts ++ trail) = ['/'].intercalate parts ++ back := by
  by_cases first : parts = []
  · exact ⟨_, idle_intercalate nowhere, by simp [first]⟩
  by_cases last : trail = []
  · exact ⟨[], nofun, by simp [last]⟩
  refine ⟨['/'] ++ ['/'].intercalate trail, idle_slash.append (idle_intercalate nowhere), ?_⟩
  rw [intercalate_append first last]
  simp

/-- Only pieces at either end that lead nowhere are missing from the core. -/
theorem exists_eq_append_core (parts : List (List Char)) :
    ∃ lead trail, parts = lead ++ (core parts ++ trail) ∧ (∀ part ∈ lead, leadsNowhere part = true) ∧
      ∀ part ∈ trail, leadsNowhere part = true := by
  refine ⟨parts.takeWhile leadsNowhere,
    ((parts.dropWhile leadsNowhere).reverse.takeWhile leadsNowhere).reverse, ?_, ?_, ?_⟩
  · rw [core, ← List.reverse_append, List.takeWhile_append_dropWhile, List.reverse_reverse,
      List.takeWhile_append_dropWhile]
  · exact List.all_eq_true.1 List.all_takeWhile
  · intro part member
    exact List.all_eq_true.1 List.all_takeWhile part (List.mem_reverse.1 member)

theorem slash_not_mem_of_mem_core {part : List Char} (path : List Char) (member : part ∈ core (pieces path)) :
    '/' ∉ part := by
  obtain ⟨lead, trail, split, -⟩ := exists_eq_append_core (pieces path)
  apply slash_not_mem_of_mem_pieces path
  rw [split]
  simp [member]

theorem filter_core (parts : List (List Char)) :
    (core parts).filter (fun part => !leadsNowhere part) = parts.filter fun part => !leadsNowhere part := by
  obtain ⟨lead, trail, split, nowhere, nowhere'⟩ := exists_eq_append_core parts
  have none : ∀ {idle : List (List Char)}, (∀ part ∈ idle, leadsNowhere part = true) →
      idle.filter (fun part => !leadsNowhere part) = [] := by
    intro idle nowhere
    exact List.filter_eq_nil_iff.2 fun part member => by simp [nowhere part member]
  conv_rhs => rw [split, List.filter_append, List.filter_append, none nowhere, none nowhere']
  simp

/-- The core starts with a piece that makes a step. -/
theorem head?_core (parts : List (List Char)) {first : List Char} (head : (core parts).head? = some first) :
    leadsNowhere first = false := by
  obtain ⟨later, cut⟩ := List.head?_eq_some_iff.1 head
  -- what is dropped at the end does not change the head, unless nothing is left
  have inFront : core parts <+: parts.dropWhile leadsNowhere := by
    refine ⟨((parts.dropWhile leadsNowhere).reverse.takeWhile leadsNowhere).reverse, ?_⟩
    rw [core, ← List.reverse_append, List.takeWhile_append_dropWhile, List.reverse_reverse]
  obtain ⟨others, whole⟩ := inFront
  have kept := List.head?_dropWhile_not leadsNowhere parts
  rw [← whole, cut] at kept
  simpa using kept

theorem steps_core (rest : List Char) : steps (['/'].intercalate (core (pieces rest))) = steps rest := by
  rw [steps, steps, ← filter_core (pieces rest)]
  by_cases empty : core (pieces rest) = []
  · rw [empty]
    rfl
  · rw [pieces_intercalate empty fun part member => slash_not_mem_of_mem_core rest member]

/-- What is put behind the home directory does not start with a slash. -/
theorem head?_intercalate_core (rest : List Char) :
    (['/'].intercalate (core (pieces rest))).head? ≠ some '/' := by
  cases cut : core (pieces rest) with
  | nil => simp
  | cons first later =>
    have makesStep := head?_core (pieces rest) (by rw [cut]; rfl)
    have unslashed : '/' ∉ first := slash_not_mem_of_mem_core rest (by simp [cut])
    cases first with
    | nil => simp [leadsNowhere] at makesStep
    | cons c first =>
      have differs : c ≠ '/' := by
        rintro rfl
        simp at unslashed
      cases later with
      | nil => simp [differs]
      | cons next later => simp [List.intercalate_cons_cons, differs]

theorem exists_eq_append_intercalate_core (rest : List Char) :
    ∃ front back, rest = front ++ (['/'].intercalate (core (pieces rest)) ++ back) ∧ Idle front ∧ Idle back := by
  obtain ⟨lead, trail, split, nowhere, nowhere'⟩ := exists_eq_append_core (pieces rest)
  obtain ⟨front, idle, parts⟩ := exists_idle_append_intercalate nowhere (core (pieces rest) ++ trail)
  obtain ⟨back, idle', parts'⟩ := exists_intercalate_append_idle nowhere' (core (pieces rest))
  refine ⟨front, back, ?_, idle, idle'⟩
  rw [← parts', ← parts, ← split, intercalate_pieces]

/-! ## The home directory -/

theorem components_tilde_slash (rest : List Char) :
    components ('~' :: '/' :: rest) = .piece ['~'] :: (steps rest).map .piece :=
  components_append_slash ['~'] rest

theorem eq_nil_or_slash_of_head?_pieces (text : List Char) (head : (pieces text).head? = some []) :
    text = [] ∨ ∃ rest, text = '/' :: rest := by
  obtain ⟨later, cut⟩ := List.head?_eq_some_iff.1 head
  rw [← intercalate_pieces text, cut]
  cases later with
  | nil => exact .inl rfl
  | cons next later => exact .inr ⟨_, rfl⟩

/-- The first component of a path is `~` exactly if the path is `~` or starts with `~/`. -/
theorem head?_components_eq_tilde_iff {path : List Char} :
    (components path).head? = some (.piece ['~']) ↔ path = ['~'] ∨ ∃ rest, path = '~' :: '/' :: rest := by
  constructor
  · intro first
    cases path with
    | nil => cases first
    | cons c path =>
      by_cases slash : c = '/'
      · simp [components, start, slash] at first
      · obtain ⟨piece, later, cut⟩ := List.exists_cons_of_ne_nil (Text.splitAt_ne_nil '/' path)
        have parts : pieces (c :: path) = (c :: piece) :: later := by
          rw [pieces, Text.splitAt, if_neg slash, cut]
        by_cases dot : c :: piece = ['.']
        · simp [components, start, slash, parts, dot] at first
        · -- the first piece is neither empty nor a dot, so it is the first component
          have makesStep : leadsNowhere (c :: piece) = false := by simp [leadsNowhere, dot]
          simp only [components, start, List.head?_cons, Option.some.injEq, slash, if_false, parts, dot, steps,
            List.filter_cons, makesStep, Bool.not_false, if_true, List.nil_append, List.map_cons,
            Component.piece.injEq] at first
          obtain ⟨rfl, rfl⟩ := List.cons.inj first
          obtain rfl | ⟨rest, rfl⟩ := eq_nil_or_slash_of_head?_pieces path (by rw [pieces, cut]; rfl)
          · exact .inl rfl
          · exact .inr ⟨rest, rfl⟩
  · rintro (rfl | ⟨rest, rfl⟩)
    · rfl
    · rw [components_tilde_slash]
      rfl

/-- What is put behind the home directory: the text behind the `~` without the slashes and dots at its ends, so that
no slash is left in front. It makes the same steps. -/
theorem exists_belowHome? {path : List Char} (tilde : (components path).head? = some (.piece ['~'])) :
    ∃ inner front back, belowHome? path = some inner ∧ path = '~' :: (front ++ (inner ++ back)) ∧ Idle front ∧
      Idle back ∧ inner.head? ≠ some '/' ∧ (steps inner).map Component.piece = (components path).tail := by
  obtain rfl | ⟨rest, rfl⟩ := head?_components_eq_tilde_iff.1 tilde
  · exact ⟨[], [], [], rfl, rfl, nofun, nofun, nofun, rfl⟩
  · obtain ⟨front, back, parts, idle, idle'⟩ := exists_eq_append_intercalate_core rest
    refine ⟨_, '/' :: front, back, rfl, ?_, idle_slash.append idle, idle', head?_intercalate_core rest, ?_⟩
    · rw [List.cons_append, ← parts]
    · rw [steps_core, components_tilde_slash, List.tail_cons]

theorem belowHome?_eq_none {path : List Char} (other : (components path).head? ≠ some (.piece ['~'])) :
    belowHome? path = none := by
  unfold belowHome?
  split
  · exact absurd (head?_components_eq_tilde_iff.2 (.inl rfl)) other
  · exact absurd (head?_components_eq_tilde_iff.2 (.inr ⟨_, rfl⟩)) other
  · rfl

end Varsheet.Path

namespace Varsheet

open Varsheet.Path

/-- The path that is opened for a sheet. If the first component of the given path is `~`, then it is the home directory
with the steps of the rest behind it, and the rest stays as it is written between its first and its last step. Any other
path is opened as it is given. -/
theorem readSource_opens (host : Host) (path : String) (homed : host.home ≠ "") :
    ∃ opened : String, readSource host path = ⟨[.reading opened], host.readText opened⟩ ∧
      ((components path.toList).head? = some (.piece ['~']) ↔ path = "~" ∨ ∃ rest, path = "~/" ++ rest) ∧
      ((components path.toList).head? = some (.piece ['~']) →
        ∃ rest front back, path.toList = '~' :: (front ++ (rest ++ back)) ∧ Idle front ∧ Idle back ∧
          opened.toList =
            host.home.toList ++ (if host.home.toList.getLast? = some '/' then [] else ['/']) ++ rest ∧
          rest.head? ≠ some '/' ∧
          components opened.toList = components host.home.toList ++ (components path.toList).tail) ∧
      ((components path.toList).head? ≠ some (.piece ['~']) → opened = path) := by
  have homed' : host.home.toList ≠ [] := by simpa using homed
  refine ⟨expandHome host.home path, rfl, ?_, fun tilde => ?_, fun other => ?_⟩
  · rw [head?_components_eq_tilde_iff]
    have whole : path.toList = ['~'] ↔ path = "~" := by rw [← String.toList_inj]; rfl
    have front : (∃ rest, path.toList = '~' :: '/' :: rest) ↔ ∃ rest, path = "~/" ++ rest := by
      constructor
      · rintro ⟨rest, parts⟩
        exact ⟨String.ofList rest, by rw [← String.toList_inj, parts]; simp⟩
      · rintro ⟨rest, rfl⟩
        exact ⟨rest.toList, by simp⟩
    rw [whole, front]
  · obtain ⟨inner, front, back, below, parts, idle, idle', relative, tail⟩ := exists_belowHome? tilde
    have opened : (expandHome host.home path).toList = join host.home.toList inner := by
      simp [expandHome, below]
    refine ⟨inner, front, back, parts, idle, idle', ?_, relative, ?_⟩
    · rw [opened, join_eq homed']
    · rw [opened, components_join homed', tail]
  · rw [expandHome, belowHome?_eq_none other]

/-- Two slashes behind the `~` do not make the rest start at the root, and a dot inside of it stays. -/
theorem readSource_opens_doubled :
    "/home/u" ≠ "" ∧
      ∃ opened, readSource ⟨"/home/u", fun _ => .error .notFound⟩ "~//etc/./x/." =
          ⟨[.reading opened], .error (.unreadable opened .notFound FileKind.notFound.message)⟩ ∧
        opened = "/home/u/etc/./x" ∧
        components opened.toList =
          components "/home/u".toList ++ [.piece ['e', 't', 'c'], .piece ['x']] := by
  obtain ⟨opened, reads, -, below, -⟩ :=
    readSource_opens ⟨"/home/u", fun _ => .error .notFound⟩ "~//etc/./x/." (by decide)
  obtain ⟨-, -, -, -, -, -, -, -, parts⟩ := below (by decide)
  have expanded : opened = "/home/u/etc/./x" := by
    have events := congrArg Job.events reads
    simp only [readSource, List.cons.injEq, Event.reading.injEq, and_true] at events
    rw [← events]
    decide
  exact ⟨by decide, opened, reads, expanded, parts⟩

end Varsheet
