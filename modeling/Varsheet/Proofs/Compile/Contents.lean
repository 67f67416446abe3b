import Varsheet.Proofs.Compile.Failure
import Varsheet.Proofs.Document.Writing
import Varsheet.Proofs.Reference.Substitution

/-!
# What sheets are read into

The names and texts of a tree that was read from a sheet could stand in a sheet again, however the lines were
indented and whatever has been put in the place of references.

* `isName_of_classify`, `isText_of_classify` : the name and the text of an entry line
* `Reads.wellFormed` : what a block binds
* `Tree.Inside.substitute` : a condition at every depth outlasts a substitution by values that meet it
* `wellFormed_of_load` : the tree of a sheet is well formed
-/

namespace Varsheet

theorem Text.OneLine.trim {text : List Char} (oneLine : OneLine text) : OneLine (Text.trim text) :=
  oneLine.of_subset fun _ => mem_of_mem_trim

namespace Document

variable {tab line : List Char} {entry : Entry}

/-! ## Entries -/

section

variable {key value : List Char} (parts : Text.trim line = key ++ ':' :: value)

include parts

theorem bareStart_of_trim_eq : Text.BareStart key := by
  have bare := (Text.bare_trim line).1
  rw [parts] at bare
  exact bare.of_append

theorem oneLine_of_trim_eq (oneLine : Text.OneLine line) : Text.OneLine key ∧ Text.OneLine value := by
  have whole := oneLine.trim
  rw [parts] at whole
  exact ⟨whole.of_subset (List.subset_append_left _ _),
    whole.of_subset fun c member => List.mem_append_right _ (List.mem_cons_of_mem _ member)⟩

end

theorem isName_of_classify (kind : classify tab line = .entry entry) (oneLine : Text.OneLine line) :
    IsName entry.key := by
  obtain ⟨key, value, parts, noColon, noComment, rfl⟩ := exists_parts_of_classify kind
  rw [IsName, String.toList_ofList]
  refine ⟨Text.trim_trim key, ?_, (oneLine_of_trim_eq parts oneLine).1.trim, ?_⟩
  · intro member
    exact noColon (Text.mem_of_mem_trim member)
  · -- the name starts where the line does, so it has no blanks in front to hide a comment
    intro comment
    exact noComment (Text.head?_of_head?_trim (bareStart_of_trim_eq parts) comment)

theorem isText_of_classify (kind : classify tab line = .entry entry) (oneLine : Text.OneLine line)
    (filled : entry.value ≠ "") : IsText entry.value := by
  obtain ⟨key, value, parts, -, -, rfl⟩ := exists_parts_of_classify kind
  rw [IsText, String.toList_ofList]
  exact ⟨filled, Text.trim_trim value, (oneLine_of_trim_eq parts oneLine).2.trim⟩

/-! ## Blocks -/

theorem WellFormed.insert {tree : Tree} {key : String} {value : Value} (wf : WellFormed tree)
    (name : IsName key) (able : value.Everywhere AreNames IsText) :
    WellFormed (tree.insert key value) := by
  obtain ⟨⟨distinct, names⟩, inside⟩ := wf
  refine ⟨⟨Tree.nodup_keys_insert key value distinct, ?_⟩, inside.insert able⟩
  intro other member
  rw [Tree.keys_insert] at member
  split at member
  · exact names other member
  · cases List.mem_append.1 member with
    | inl old => exact names other old
    | inr new => rwa [List.mem_singleton.1 new]

theorem wellFormed_nil : WellFormed [] :=
  ⟨⟨List.nodup_nil, nofun⟩, trivial⟩

/-- A block that starts with a well-formed tree ends with one. -/
theorem Reads.wellFormed {level : Nat} {tree : Tree} {lines left : List Line}
    {outcome : Except Line Tree} (reads : Reads tab level tree lines outcome left)
    (oneLine : ∀ line ∈ lines, Text.OneLine line.text) (wf : WellFormed tree) :
    ∀ result, outcome = .ok result → WellFormed result := by
  induction reads with
  | nothing =>
    intro result same
    cases same
    exact wf
  | passed _ _ ih => exact ih (List.forall_mem_cons.1 oneLine).2 wf
  | malformed _ =>
    intro result same
    cases same
  | shallow _ _ =>
    intro result same
    cases same
    exact wf
  | scalar kind _ filled _ ih =>
    obtain ⟨first, later⟩ := List.forall_mem_cons.1 oneLine
    apply ih later
    exact wf.insert (isName_of_classify kind first) (isText_of_classify kind first filled)
  | group kind _ _ inner _ ihInner ihNext =>
    obtain ⟨first, later⟩ := List.forall_mem_cons.1 oneLine
    have children := ihInner later wellFormed_nil _ rfl
    -- the lines behind the inner block are lines of this one
    refine ihNext (fun line member => ?_) (wf.insert (isName_of_classify kind first) children)
    rw [inner.left_eq_dropWhile] at member
    exact later line ((List.dropWhile_sublist _).subset member)
  | failed _ _ _ _ _ =>
    intro result same
    cases same

theorem oneLine_of_mem_ofText {text : String} {line : Line} (member : line ∈ Line.ofText text) :
    Text.OneLine line.text := by
  obtain ⟨numberedLine, inside, rfl⟩ := List.mem_map.1 member
  exact Text.oneLine_of_mem_lines (List.fst_mem_of_mem_zipIdx inside)

theorem wellFormed_of_parseWith {tab text : String} {tree : Tree}
    (parsed : (parseWith tab text).result = .ok tree) : WellFormed tree := by
  obtain ⟨left, reads⟩ := reads_of_parseWith parsed
  exact reads.wellFormed (fun line => oneLine_of_mem_ofText) wellFormed_nil tree rfl

end Document

/-! ## References -/

section

variable {onNames : List String → Prop} {onText : String → Prop} {target : String → Option Value}

mutual

theorem Value.Everywhere.substitute
    (into : ∀ text value, target text = some value → value.Everywhere onNames onText) :
    ∀ value : Value, value.Everywhere onNames onText →
      (value.substitute target).Everywhere onNames onText
  | .scalar text, able => by
    rw [Value.substitute]
    cases hit : target text with
    | none => exact able
    | some replacement => exact into text replacement hit
  | .group entries, ⟨names, inside⟩ => by
    rw [Value.substitute]
    exact ⟨by rwa [Tree.keys_substitute], Tree.Inside.substitute into entries inside⟩

theorem Tree.Inside.substitute
    (into : ∀ text value, target text = some value → value.Everywhere onNames onText) :
    ∀ entries : List (String × Value), Tree.Inside onNames onText entries →
      Tree.Inside onNames onText (Tree.substitute target entries)
  | [], _ => trivial
  | (_, value) :: rest, ⟨able, inside⟩ =>
    ⟨Value.Everywhere.substitute into value able, Tree.Inside.substitute into rest inside⟩

end

/-- The values that references are replaced by are in the tree already. -/
theorem Reference.everywhere_of_resolve {symbol : String} {tree result : Tree}
    (resolved : (Reference.resolve symbol tree).result = .ok result)
    (able : tree.Everywhere onNames onText) : result.Everywhere onNames onText := by
  rw [Reference.result_resolve] at resolved
  cases resolved
  split
  · exact able
  · refine ⟨by rw [Tree.keys_substitute]; exact able.1, Tree.Inside.substitute ?_ tree able.2⟩
    intro text value hit
    obtain ⟨key, -, bound⟩ := Reference.target?_eq_some_iff.1 hit
    exact able.2.of_get? bound

end

/-- Whatever the options are, the names of a tree that was read from a sheet are distinct in each of its groups
and can stand in front of a colon, and its texts can stand behind one. -/
theorem wellFormed_of_load {options : Options} {text : String} {tree : Tree}
    (loaded : (load options text).result = .ok tree) : Document.WellFormed tree := by
  obtain ⟨parsed, read, applied⟩ := Job.result_bind_eq_ok_iff.1 loaded
  have wf := Document.wellFormed_of_parseWith read
  unfold Reference.apply at applied
  split at applied
  · exact Reference.everywhere_of_resolve applied wf
  · cases applied
    exact wf

/-- No unit of indentation but the tab character, three kinds of line ends, an empty name, and a group in the
place of a reference. -/
theorem wellFormed_of_load_mixed :
    (load (Options.default.withTab "") "a:\r\n\t b : x\r#c: y\n: $a\n\u3000d\u3000: $").result =
        .ok [("a", .group [("b", .scalar "x")]), ("", .group [("b", .scalar "x")]), ("d", .scalar "$a")] ∧
      Document.WellFormed
        [("a", .group [("b", .scalar "x")]), ("", .group [("b", .scalar "x")]), ("d", .scalar "$a")] := by
  have loaded : (load (Options.default.withTab "")
      "a:\r\n\t b : x\r#c: y\n: $a\n\u3000d\u3000: $").result =
        .ok [("a", .group [("b", .scalar "x")]), ("", .group [("b", .scalar "x")]), ("d", .scalar "$a")] := by
    decide +kernel
  exact ⟨loaded, wellFormed_of_load loaded⟩

end Varsheet
