import Varsheet.Proofs.Script.Layout

/-!
# One body for all containers

A tree is written in one of four frames: on its own, as a variable, as an assignment to a dotted path, and as
such an assignment inside of a strict function. What stands in the frame is the same in the first three, and in
the last one it has been moved in by one unit. It is not moved as a text, though: the whole tree is written
again at the next level, so `treeLines_succ` has to bring the two together.

* `bodyText` : what is written for an entry of the root in the first three frames
* `value_congr` : a value is written with two of the options only
* `splitOn_render_of_closure` : the lines inside of the function
* `render_eq_by_container` : all frames together
-/

namespace Varsheet.Script

open Text (Unbroken unbroken_append)

/-- What is written for the value of an entry of the root. Only two of the options are needed for it. -/
def bodyText (tab quotes : String) (content : Value) : String :=
  value { Options.default with tab, quotes } 1 content

/-! ## The body -/

section

variable {options other : Options}

mutual

theorem value_congr (tabs : options.tab = other.tab) (quotes : options.quotes = other.quotes) {level : Nat} :
    ∀ content : Value, value options level content = value other level content
  | .scalar text => by rw [value, value, quotes]
  | .group children => by rw [value, value, tabs, entries_congr tabs quotes children]

theorem entries_congr (tabs : options.tab = other.tab) (quotes : options.quotes = other.quotes)
    {assign : String} {level : Nat} :
    ∀ children : List (String × Value),
      entries options assign level children = entries other assign level children
  | [] => rfl
  | (key, content) :: rest => by
    rw [entries, entries, value_congr tabs quotes content, entries_congr tabs quotes rest]

end

theorem entries_eq_map (options : Options) (assign : String) (level : Nat) (children : List (String × Value)) :
    entries options assign level children =
      children.map fun entry => identifier entry.1 ++ assign ++ value options level entry.2 := by
  induction children with
  | nil => rfl
  | cons entry rest ih => rw [entries, ih, List.map_cons]

theorem entries_root (options : Options) (assign : String) (tree : Tree) :
    entries options assign 1 tree =
      tree.map fun entry => identifier entry.1 ++ assign ++ bodyText options.tab options.quotes entry.2 := by
  have texts (content : Value) : value options 1 content = bodyText options.tab options.quotes content :=
    value_congr (by rfl) (by rfl) content
  simp only [entries_eq_map, texts]

theorem object_root {tree : Tree} (filled : tree ≠ []) :
    object options 0 tree =
      "\x7b\n" ++ options.tab ++ String.intercalate (",\n" ++ options.tab)
        (tree.map fun entry => identifier entry.1 ++ ": " ++ bodyText options.tab options.quotes entry.2) ++
        "\n\x7d" := by
  rw [object_of_ne_nil filled, entries_root]
  simp [indent_eq_units, units, ← String.toList_inj]

end

/-! ## The frame of a strict function -/

section

variable {options : Options} {name : String} {tree : Tree} (filled : tree ≠ [])
  (contained : options.container = some name) (dotted : '.' ∈ name.toList) (unbroken : IsUnbroken options tree)

include contained unbroken

theorem unbroken_assignment : Unbroken (name ++ " = ") := by
  rw [unbroken_append]
  exact ⟨unbroken.container name contained, by decide⟩

include filled dotted

theorem splitOn_render_of_dotted (unclosed : options.closure = false) :
    (render options tree).toList.splitOn '\n' =
      (bracedLines options.tab 0 (name ++ " = ") ";"
        (treeLines options.tab options.quotes 1 tree)).map String.toList := by
  rw [render_of_dotted filled contained dotted unclosed]
  exact splitOn_object filled unbroken (unbroken_assignment contained unbroken) (by decide) 0

theorem splitOn_render_of_closure (closed : options.closure = true) :
    (render options tree).toList.splitOn '\n' =
      ("(function() \x7b" :: (options.tab ++ "'use strict';") ::
        ((bracedLines options.tab 0 (name ++ " = ") ";"
          (treeLines options.tab options.quotes 1 tree)).map (options.tab ++ ·) ++ ["\x7d());"])).map
        String.toList := by
  have unbrokenFront : Unbroken (options.tab ++ (name ++ " = ")) :=
    unbroken_append.2 ⟨unbroken.tab, unbroken_assignment contained unbroken⟩
  -- the lines inside of the function are those of the tree at the next level
  rw [← bracedLines_succ, ← treeLines_succ]
  have joined : render options tree = "\n".intercalate
      ("(function() \x7b" :: (options.tab ++ "'use strict';") ::
        (bracedLines options.tab 1 (options.tab ++ (name ++ " = ")) ";"
          (treeLines options.tab options.quotes 2 tree) ++ ["\x7d());"])) := by
    rw [String.intercalate_cons_of_ne_nil (by simp), String.intercalate_cons_of_ne_nil (by simp),
      String.intercalate_append_of_ne_nil (by simp [bracedLines]) (by simp),
      intercalate_bracedLines_treeLines filled, render_of_closure filled contained dotted closed]
    simp [← String.toList_inj]
  have unbrokenInner : ∀ line ∈ treeLines options.tab options.quotes 2 tree, Unbroken line :=
    unbroken_treeLines unbroken.tab unbroken.quotes tree unbroken.tree.1 unbroken.tree.2
  rw [joined]
  apply Text.splitOn_intercalate_newline (by simp)
  simp only [List.forall_mem_cons, List.forall_mem_append, unbroken_append]
  exact ⟨by decide, ⟨unbroken.tab, by decide⟩,
    unbroken_bracedLines unbroken.tab unbrokenFront (by decide) unbrokenInner, by decide, List.forall_mem_nil _⟩

end

/-- A script is put into a function only if its container has a dot. -/
theorem render_withClosure_of_undotted {options : Options} {tree : Tree} (filled : tree ≠ [])
    (undotted : ∀ name, options.container = some name → '.' ∉ name.toList) (closure : Bool) :
    render (options.withClosure closure) tree = render options tree := by
  have same : (options.withClosure closure).container = options.container := rfl
  cases contained : options.container with
  | none =>
    rw [render_of_none filled (same.trans contained), render_of_none filled contained, entries_root,
      entries_root]
    rfl
  | some name =>
    have body : object (options.withClosure closure) 0 tree = object options 0 tree :=
      value_congr (by rfl) (by rfl) (.group tree)
    rw [render_of_undotted filled (same.trans contained) (undotted name contained),
      render_of_undotted filled contained (undotted name contained), body]

/-- The frames of a script, by the container. A strict function has the lines of the assignment in it, each with
one more unit in front, and there is one only if the container has a dot. -/
theorem render_eq_by_container (options : Options) (tree : Tree) (filled : tree ≠ []) :
    (options.container = none →
      render options tree =
        "var " ++ String.intercalate (",\n" ++ options.tab)
          (tree.map fun entry => identifier entry.1 ++ " = " ++ bodyText options.tab options.quotes entry.2) ++
          ";") ∧
    (∀ name, options.container = some name → ('.' ∈ name.toList → options.closure = false) →
      render options tree =
        (if '.' ∈ name.toList then "" else "var ") ++ name ++ " = \x7b\n" ++ options.tab ++
          String.intercalate (",\n" ++ options.tab)
            (tree.map fun entry => identifier entry.1 ++ ": " ++ bodyText options.tab options.quotes entry.2) ++
          "\n\x7d;") ∧
    (∀ name, options.container = some name → '.' ∈ name.toList → IsUnbroken options tree →
      (render (options.withClosure true) tree).toList.splitOn '\n' =
        "(function() \x7b".toList :: (options.tab ++ "'use strict';").toList ::
          (((render (options.withClosure false) tree).toList.splitOn '\n').map (options.tab.toList ++ ·) ++
            ["\x7d());".toList])) ∧
    ((∀ name, options.container = some name → '.' ∉ name.toList) →
      ∀ closure, render (options.withClosure closure) tree = render options tree) := by
  refine ⟨?_, ?_, ?_, ?_⟩
  · intro bare
    rw [render_of_none filled bare, entries_root]
    simp [indent_eq_units, units]
  · intro name contained unclosed
    by_cases dotted : '.' ∈ name.toList
    · rw [render_of_dotted filled contained dotted (unclosed dotted), object_root filled, if_pos dotted]
      simp [← String.toList_inj]
    · rw [render_of_undotted filled contained dotted, object_root filled, if_neg dotted]
      simp [← String.toList_inj]
  · intro name contained dotted unbroken
    have contained (closure : Bool) : (options.withClosure closure).container = some name := contained
    have unbroken (closure : Bool) : IsUnbroken (options.withClosure closure) tree :=
      ⟨unbroken.container, unbroken.tab, unbroken.quotes, unbroken.tree⟩
    rw [splitOn_render_of_closure filled (contained true) dotted (unbroken true) rfl,
      splitOn_render_of_dotted filled (contained false) dotted (unbroken false) rfl]
    simp [Options.withClosure]
  · intro undotted closure
    exact render_withClosure_of_undotted filled undotted closure

/-- One tree without a container, and with a dotted one in and out of a strict function. -/
theorem render_eq_by_container_nested :
    let tree : Tree := [("a-b", .group [("c", .scalar "1")]), ("d", .scalar "x")]
    let dotted := { Options.default with container := some "site.vars", tab := "\t" }
    render Options.default tree = "var a_b = \x7b\n        c: 1\n    \x7d,\n    d = 'x';" ∧
      render dotted tree = "site.vars = \x7b\n\ta_b: \x7b\n\t\tc: 1\n\t\x7d,\n\td: 'x'\n\x7d;" ∧
      (render (dotted.withClosure true) tree).toList.splitOn '\n' =
        ["(function() \x7b", "\t'use strict';", "\tsite.vars = \x7b", "\t\ta_b: \x7b", "\t\t\tc: 1", "\t\t\x7d,",
          "\t\td: 'x'", "\t\x7d;", "\x7d());"].map String.toList := by
  intro tree dotted
  have filled : tree ≠ [] := by decide
  have unbroken : IsUnbroken dotted tree := ⟨by decide, by decide, by decide, by decide⟩
  refine ⟨?_, ?_, ?_⟩
  · rw [(render_eq_by_container Options.default tree filled).1 rfl]
    decide +kernel
  · rw [(render_eq_by_container dotted tree filled).2.1 "site.vars" rfl fun _ => rfl]
    decide +kernel
  · rw [(render_eq_by_container dotted tree filled).2.2.1 "site.vars" rfl (by decide) unbroken]
    decide +kernel

end Varsheet.Script
