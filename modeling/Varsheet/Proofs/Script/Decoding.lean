import Mathlib.Data.List.Basic
import Varsheet.Proofs.Text.Lines
import Varsheet.Proofs.Tree.Shape
import Varsheet.Render.Script

/-!
# Scripts can be told apart

Nothing is escaped in a script. Still a script in a container loses nothing of its tree but the
difference between hyphens and underscores in names: a name ends at its first colon, a text ends at the
end of its line, and whether an entry is the last of its group shows in the comma behind it.

* `IsQuotes` : the quotes for which this holds
* `literal_injective` : how a text is written tells which text it is
* `value_append_inj` : a value is known by how its script starts, whatever comes behind
* `render_eq_iff_mapKeys_eq` : two trees have the same script exactly if they differ in hyphens only
-/

namespace Varsheet.Script

/-- Quotes that cannot be taken for the start of a number or of a group, or for a comma behind a
text. -/
def IsQuotes (quotes : String) : Prop :=
  quotes ≠ "" ∧ '\n' ∉ quotes.toList ∧
    (∀ c ∈ quotes.toList.head?, c.isDigit = false ∧ c ≠ '.' ∧ c ≠ '\x7b') ∧
    quotes.toList.getLast? ≠ some ','

instance (quotes : String) : Decidable (IsQuotes quotes) :=
  have : Decidable (∀ c ∈ quotes.toList.head?, c.isDigit = false ∧ c ≠ '.' ∧ c ≠ '\x7b') :=
    Option.decidableForallMem _
  inferInstanceAs (Decidable (_ ∧ _ ∧ _ ∧ _))

/-- No name inside of the value has a colon in it, and no text has a line feed in it. -/
def IsPlainValue (content : Value) : Prop :=
  content.Everywhere (fun names => ∀ key ∈ names, ':' ∉ key.toList) fun text => '\n' ∉ text.toList

/-- The same for a tree. -/
def IsPlain (tree : Tree) : Prop :=
  IsPlainValue (.group tree)

instance (content : Value) : Decidable (IsPlainValue content) :=
  Value.decEverywhere content

instance (tree : Tree) : Decidable (IsPlain tree) :=
  inferInstanceAs (Decidable (IsPlainValue (.group tree)))

theorem isPlain_cons {key : String} {content : Value} {rest : Tree} :
    IsPlain ((key, content) :: rest) ↔
      ':' ∉ key.toList ∧ IsPlainValue content ∧ IsPlain rest := by
  simp only [IsPlain, IsPlainValue, Value.Everywhere, Tree.Inside, Tree.keys, List.map_cons,
    List.forall_mem_cons]
  rw [and_and_and_comm, and_assoc]

/-! ## Texts -/

section

variable {quotes s t : String}

theorem literal_of_numeric (numeric : isNumeric s = true) : literal quotes s = s :=
  if_pos numeric

theorem literal_of_not_numeric (numeric : isNumeric s = false) :
    literal quotes s = quotes ++ s ++ quotes :=
  if_neg (by simp [numeric])

theorem isNumeric_iff : isNumeric s = true ↔
    s ≠ "" ∧ ∀ c ∈ s.toList, c.isDigit = true ∨ c = '.' := by
  simp [isNumeric]

/-- A text starts with a digit or a dot exactly if it is written without quotes, and never as a group
does. -/
theorem literal_head (ok : IsQuotes quotes) (s : String) :
    ∃ c rest, (literal quotes s).toList = c :: rest ∧ c ≠ '\x7b' ∧
      (isNumeric s = true ↔ c.isDigit = true ∨ c = '.') := by
  obtain ⟨someQuotes, -, start, -⟩ := ok
  cases numeric : isNumeric s with
  | true =>
    obtain ⟨someText, digits⟩ := isNumeric_iff.mp numeric
    cases chars : s.toList with
    | nil => exact absurd (String.toList_eq_nil_iff.mp chars) someText
    | cons c rest =>
      have digit := digits c (by simp [chars])
      refine ⟨c, rest, ?_, ?_, ?_⟩
      · rw [literal_of_numeric numeric, chars]
      · rintro rfl
        exact absurd digit (by decide)
      · simp [digit]
  | false =>
    cases chars : quotes.toList with
    | nil => exact absurd (String.toList_eq_nil_iff.mp chars) someQuotes
    | cons c rest =>
      obtain ⟨notDigit, notDot, notBrace⟩ := start c (by simp [chars])
      refine ⟨c, rest ++ s.toList ++ quotes.toList, ?_, notBrace, ?_⟩
      · simp [literal_of_not_numeric numeric, chars]
      · simp [notDigit, notDot]

theorem newline_not_mem_literal (oneLineQuotes : '\n' ∉ quotes.toList) (oneLine : '\n' ∉ s.toList) :
    '\n' ∉ (literal quotes s).toList := by
  cases numeric : isNumeric s with
  | true => rwa [literal_of_numeric numeric]
  | false => simp [literal_of_not_numeric numeric, oneLine, oneLineQuotes]

theorem getLast?_literal_ne_comma (ok : IsQuotes quotes) (s : String) :
    (literal quotes s).toList.getLast? ≠ some ',' := by
  obtain ⟨someQuotes, -, -, finish⟩ := ok
  cases numeric : isNumeric s with
  | true =>
    rw [literal_of_numeric numeric]
    intro comma
    have digit := (isNumeric_iff.mp numeric).2 ',' (List.mem_of_getLast? comma)
    exact absurd digit (by decide)
  | false =>
    have someChars : quotes.toList ≠ [] := fun chars => someQuotes (String.toList_eq_nil_iff.mp chars)
    rw [literal_of_not_numeric numeric, String.toList_append, List.getLast?_append_of_ne_nil _ someChars]
    exact finish

theorem literal_injective (ok : IsQuotes quotes) (same : literal quotes s = literal quotes t) :
    s = t := by
  -- the first character shows whether there are quotes around the text
  have numeric : isNumeric s = isNumeric t := by
    obtain ⟨c, rest, written, -, numeric⟩ := literal_head ok s
    obtain ⟨c', rest', written', -, numeric'⟩ := literal_head ok t
    rw [same, written'] at written
    obtain ⟨rfl, -⟩ := List.cons.inj written
    rw [Bool.eq_iff_iff, numeric, numeric']
  cases isNum : isNumeric s with
  | true => rwa [literal_of_numeric isNum, literal_of_numeric (numeric ▸ isNum)] at same
  | false =>
    rw [literal_of_not_numeric isNum, literal_of_not_numeric (numeric ▸ isNum),
      ← String.toList_inj] at same
    simp only [String.toList_append] at same
    have inner := List.append_cancel_left (List.append_cancel_right same)
    exact String.toList_inj.mp inner

end

/-- What can come behind a value: the end of its line, with a comma in front of it if another entry
follows. -/
inductive Follows : List Char → Prop where
  | last (rest : List Char) : Follows ('\n' :: rest)
  | next (rest : List Char) : Follows (',' :: '\n' :: rest)

theorem append_inj_of_follows {text text' behind behind' : List Char} (oneLine : '\n' ∉ text)
    (oneLine' : '\n' ∉ text') (noComma : text.getLast? ≠ some ',')
    (noComma' : text'.getLast? ≠ some ',') (follows : Follows behind) (follows' : Follows behind')
    (same : text ++ behind = text' ++ behind') : text = text' ∧ behind = behind' := by
  have withComma {text : List Char} (oneLine : '\n' ∉ text) : '\n' ∉ text ++ [','] := by
    simp [oneLine]
  -- both sides are cut at their first line feed, with or without a comma in front of it
  cases follows with
  | last rest =>
    cases follows' with
    | last rest' =>
      obtain ⟨rfl, rfl⟩ := Text.append_cons_inj_of_not_mem oneLine oneLine' same
      exact ⟨rfl, rfl⟩
    | next rest' =>
      rw [List.append_cons text' ','] at same
      obtain ⟨rfl, -⟩ := Text.append_cons_inj_of_not_mem oneLine (withComma oneLine') same
      -- the comma behind one text would be the end of the other
      exact absurd List.getLast?_concat noComma
  | next rest =>
    rw [List.append_cons text ','] at same
    cases follows' with
    | last rest' =>
      obtain ⟨rfl, -⟩ := Text.append_cons_inj_of_not_mem (withComma oneLine) oneLine' same
      exact absurd List.getLast?_concat noComma'
    | next rest' =>
      rw [List.append_cons text' ','] at same
      obtain ⟨texts, rfl⟩ :=
        Text.append_cons_inj_of_not_mem (withComma oneLine) (withComma oneLine') same
      exact ⟨List.append_cancel_right texts, rfl⟩

/-! ## Names -/

theorem identifier_identifier (key : String) : identifier (identifier key) = identifier key := by
  have stable : ∀ c : Char, (if (if c = '-' then '_' else c) = '-' then '_'
      else (if c = '-' then '_' else c)) = if c = '-' then '_' else c := by
    intro c
    by_cases hyphen : c = '-'
    · rw [if_pos hyphen]; rfl
    · rw [if_neg hyphen, if_neg hyphen]
  simp only [identifier, String.toList_ofList, List.map_map, Function.comp_def, stable]

theorem not_mem_identifier {c : Char} {key : String} (other : c ≠ '_') (absent : c ∉ key.toList) :
    c ∉ (identifier key).toList := by
  rw [identifier, String.toList_ofList, List.mem_map]
  rintro ⟨d, member, changed⟩
  by_cases hyphen : d = '-'
  · rw [if_pos hyphen] at changed
    exact other changed.symm
  · rw [if_neg hyphen] at changed
    exact absent (changed ▸ member)

/-! ## Groups -/

variable {options : Options}

/-- What is written behind an entry in a group: the entries `rest` and the closing brace, which stands at
`level`. -/
def groupTail (options : Options) (level : Nat) : List (String × Value) → List Char
  | [] => '\n' :: ((indent options.tab level).toList ++ ['\x7d'])
  | (key, content) :: rest =>
    ',' :: '\n' :: ((indent options.tab (level + 1)).toList ++ ((identifier key).toList ++
      ':' :: ' ' :: ((value options (level + 1) content).toList ++ groupTail options level rest)))

theorem follows_groupTail (level : Nat) (entries : List (String × Value)) (behind : List Char) :
    Follows (groupTail options level entries ++ behind) := by
  cases entries with
  | nil => exact .last _
  | cons entry rest => exact .next _

theorem toList_intercalate_entries (level : Nat) (key : String) (content : Value)
    (rest : List (String × Value)) :
    (String.intercalate (",\n" ++ indent options.tab (level + 1))
        (entries options ": " (level + 1) ((key, content) :: rest)) ++ "\n" ++
          indent options.tab level ++ "\x7d").toList =
      (identifier key).toList ++ ':' :: ' ' ::
        ((value options (level + 1) content).toList ++ groupTail options level rest) := by
  induction rest generalizing key content with
  | nil => simp [entries, groupTail]
  | cons next rest ih =>
    obtain ⟨key', content'⟩ := next
    have ih := ih key' content'
    simp only [entries, String.intercalate_cons_cons] at ih ⊢
    simp [groupTail, ← ih]

theorem toList_value_group_nil (level : Nat) :
    (value options level (.group [])).toList = ['\x7b', '\x7d'] := by
  simp [value, entries, braces]

/-- The first entry of a group is written as every other one, but with the brace of the group in the
place of a comma. -/
theorem toList_value_group_cons (options : Options) (level : Nat) (entry : String × Value)
    (rest : List (String × Value)) :
    ∃ body, (value options level (.group (entry :: rest))).toList = '\x7b' :: '\n' :: body ∧
      groupTail options level (entry :: rest) = ',' :: '\n' :: body := by
  obtain ⟨key, content⟩ := entry
  refine ⟨_, ?_, rfl⟩
  rw [value, braces, if_neg (by simp [entries]), ← toList_intercalate_entries]
  simp

theorem exists_toList_value_group (options : Options) (level : Nat) (entries : List (String × Value)) :
    ∃ rest, (value options level (.group entries)).toList = '\x7b' :: rest := by
  cases entries with
  | nil => exact ⟨_, toList_value_group_nil level⟩
  | cons entry rest =>
    obtain ⟨body, written, -⟩ := toList_value_group_cons options level entry rest
    exact ⟨_, written⟩

theorem literal_append_ne_group (ok : IsQuotes options.quotes) {level : Nat} {text : String}
    {entries : List (String × Value)} {behind behind' : List Char} :
    (literal options.quotes text).toList ++ behind ≠
      (value options level (.group entries)).toList ++ behind' := by
  intro same
  obtain ⟨c, rest, written, notBrace, -⟩ := literal_head ok text
  obtain ⟨rest', written'⟩ := exists_toList_value_group options level entries
  rw [written, written'] at same
  exact notBrace (List.cons.inj same).1

mutual

theorem value_append_inj (ok : IsQuotes options.quotes) {level : Nat} {behind behind' : List Char} :
    ∀ (content content' : Value), IsPlainValue content → IsPlainValue content' → Follows behind →
      Follows behind' →
      (value options level content).toList ++ behind =
        (value options level content').toList ++ behind' →
      content.mapKeys identifier = content'.mapKeys identifier ∧ behind = behind'
  | .scalar text, .scalar text', plain, plain', follows, follows', same => by
    obtain ⟨texts, rfl⟩ := append_inj_of_follows (newline_not_mem_literal ok.2.1 plain)
      (newline_not_mem_literal ok.2.1 plain') (getLast?_literal_ne_comma ok text)
      (getLast?_literal_ne_comma ok text') follows follows' same
    obtain rfl := literal_injective ok (String.toList_inj.mp texts)
    exact ⟨rfl, rfl⟩
  | .scalar _, .group _, _, _, _, _, same => absurd same (literal_append_ne_group ok)
  | .group _, .scalar _, _, _, _, _, same => absurd same.symm (literal_append_ne_group ok)
  | .group entries, .group entries', plain, plain', _, _, same => by
    cases entries with
    | nil =>
      cases entries' with
      | nil => exact ⟨rfl, List.append_cancel_left same⟩
      | cons entry' rest' =>
        -- an empty group is closed on the line of its brace
        obtain ⟨body', written', -⟩ := toList_value_group_cons options level entry' rest'
        rw [written', toList_value_group_nil] at same
        simp at same
    | cons entry rest =>
      obtain ⟨body, written, tail⟩ := toList_value_group_cons options level entry rest
      cases entries' with
      | nil =>
        rw [written, toList_value_group_nil] at same
        simp at same
      | cons entry' rest' =>
        obtain ⟨body', written', tail'⟩ :=
          toList_value_group_cons options level entry' rest'
        -- put commas in the place of the braces, and the groups are tails
        have tails : groupTail options level (entry :: rest) ++ behind =
            groupTail options level (entry' :: rest') ++ behind' := by
          rw [tail, tail']
          simpa [written, written'] using same
        obtain ⟨trees, rfl⟩ :=
          groupTail_append_inj ok (entry :: rest) (entry' :: rest') plain plain' tails
        exact ⟨congrArg Value.group trees, rfl⟩

theorem groupTail_append_inj (ok : IsQuotes options.quotes) {level : Nat}
    {behind behind' : List Char} :
    ∀ (entries entries' : List (String × Value)), IsPlain entries → IsPlain entries' →
      groupTail options level entries ++ behind = groupTail options level entries' ++ behind' →
      Tree.mapKeys identifier entries = Tree.mapKeys identifier entries' ∧ behind = behind'
  | [], [], _, _, same => ⟨rfl, List.append_cancel_left same⟩
  | [], _ :: _, _, _, same => absurd (List.cons.inj same).1 (by decide)
  | _ :: _, [], _, _, same => absurd (List.cons.inj same).1 (by decide)
  | (key, content) :: rest, (key', content') :: rest', plain, plain', same => by
    obtain ⟨noColon, plainHere, plainRest⟩ := isPlain_cons.mp plain
    obtain ⟨noColon', plainHere', plainRest'⟩ := isPlain_cons.mp plain'
    simp only [groupTail, List.cons_append, List.append_assoc, List.cons.injEq, true_and,
      List.append_cancel_left_eq] at same
    -- the name ends at its first colon, the value at what follows it, and the rest is the tail
    obtain ⟨names, lines⟩ := Text.append_cons_inj_of_not_mem (not_mem_identifier (by decide) noColon)
      (not_mem_identifier (by decide) noColon') same
    obtain ⟨contents, tails⟩ := value_append_inj ok content content' plainHere plainHere'
      (follows_groupTail level rest behind) (follows_groupTail level rest' behind')
      (List.cons.inj lines).2
    obtain ⟨trees, rfl⟩ := groupTail_append_inj ok rest rest' plainRest plainRest' tails
    exact ⟨by rw [Tree.mapKeys, Tree.mapKeys, String.toList_inj.mp names, contents, trees], rfl⟩

end

/-! ## Scripts -/

mutual

theorem value_mapKeys {level : Nat} :
    ∀ content : Value, value options level (content.mapKeys identifier) = value options level content
  | .scalar _ => rfl
  | .group children => by rw [Value.mapKeys, value, value, entries_mapKeys children]

theorem entries_mapKeys {assign : String} {level : Nat} :
    ∀ children : List (String × Value),
      entries options assign level (Tree.mapKeys identifier children) =
        entries options assign level children
  | [] => rfl
  | (key, content) :: rest => by
    rw [Tree.mapKeys, entries, entries, identifier_identifier, value_mapKeys content,
      entries_mapKeys rest]

end

/-- A script does not show the difference between hyphens and underscores in names. -/
theorem render_mapKeys (tree : Tree) :
    render options (Tree.mapKeys identifier tree) = render options tree := by
  have isEmpty : (Tree.mapKeys identifier tree).isEmpty = tree.isEmpty := by
    cases tree <;> rfl
  have object (level : Nat) : object options level (Tree.mapKeys identifier tree) =
      object options level tree := value_mapKeys (.group tree)
  rw [render, render, isEmpty, entries_mapKeys, object, object]

/-- A script in a container is one object literal, and the text around it does not depend on the tree. -/
theorem exists_render_eq_object {name : String} (contained : options.container = some name) :
    ∃ front back level, ∀ tree : Tree, tree ≠ [] →
      render options tree = front ++ object options level tree ++ back := by
  by_cases dotted : '.' ∈ name.toList
  · cases closed : options.closure with
    | true => exact ⟨_, _, 1, fun tree someEntry => render_of_closure someEntry contained dotted closed⟩
    | false => exact ⟨_, _, 0, fun tree someEntry => render_of_dotted someEntry contained dotted closed⟩
  · exact ⟨_, _, 0, fun tree someEntry => render_of_undotted someEntry contained dotted⟩

theorem render_eq_empty_iff {name : String} (contained : options.container = some name) {tree : Tree} :
    render options tree = "" ↔ tree = [] := by
  obtain ⟨front, back, level, rendered⟩ := exists_render_eq_object contained
  refine ⟨fun empty => ?_, fun noEntry => by rw [noEntry]; rfl⟩
  by_contra someEntry
  obtain ⟨rest, written⟩ := exists_toList_value_group options level tree
  have noText : (value options level (.group tree)).toList = [] := by
    rw [rendered tree someEntry] at empty
    simp only [String.append_eq_empty_iff] at empty
    exact String.toList_eq_nil_iff.mpr empty.1.2
  rw [written] at noText
  exact List.cons_ne_nil _ _ noText

/-- Two trees have the same script exactly if they differ in hyphens only. -/
theorem render_eq_iff_mapKeys_eq {name : String} {s t : Tree}
    (contained : options.container = some name) (ok : IsQuotes options.quotes) (plain : IsPlain s)
    (plain' : IsPlain t) :
    render options s = render options t ↔
      Tree.mapKeys identifier s = Tree.mapKeys identifier t := by
  constructor
  · intro same
    by_cases noEntry : s = []
    · have noEntry' : t = [] := by
        rw [← render_eq_empty_iff contained, ← same, render_eq_empty_iff contained]
        exact noEntry
      rw [noEntry, noEntry']
    · have someEntry' : t ≠ [] := by
        rw [ne_eq, ← render_eq_empty_iff contained, ← same, render_eq_empty_iff contained]
        exact noEntry
      obtain ⟨front, back, level, rendered⟩ := exists_render_eq_object contained
      rw [rendered s noEntry, rendered t someEntry', ← String.toList_inj] at same
      simp only [String.toList_append, List.append_cancel_right_eq, List.append_cancel_left_eq] at same
      -- a line feed behind both stands for what follows a value
      have lines : (value options level (.group s)).toList ++ ['\n'] =
          (value options level (.group t)).toList ++ ['\n'] := congrArg (· ++ ['\n']) same
      obtain ⟨groups, -⟩ := value_append_inj ok _ _ plain plain' (.last []) (.last []) lines
      exact Value.group.inj groups
  · intro same
    rw [← render_mapKeys s, same, render_mapKeys t]

theorem render_eq_iff_mapKeys_eq_quoted :
    let options := { Options.default with container := some "site.vars", quotes := "'" }
    render options [("a-b", .scalar "x', c: 'y")] = render options [("a_b", .scalar "x', c: 'y")] ∧
      render options [("a-b", .scalar "x', c: 'y")] ≠
        render options [("a-b", .scalar "x"), ("c", .scalar "y")] := by
  refine ⟨?_, ?_⟩
  · exact (render_eq_iff_mapKeys_eq rfl (by decide) (by decide) (by decide)).mpr (by decide)
  · intro same
    have trees := (render_eq_iff_mapKeys_eq rfl (by decide) (by decide) (by decide)).mp same
    exact absurd trees (by decide)

end Varsheet.Script
