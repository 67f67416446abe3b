import Varsheet.Compile
import Varsheet.Proofs.Document.Extent

/-!
# When a sheet cannot be compiled

The only thing that can be wrong with the text of a sheet is a line that lacks its colon. The first
such line is what is reported, by every job that reads the sheet and under all options.

* `FirstLacking` : the first line of a text that lacks its colon
* `Reports` : the fault that such a line gives
* `error_iff_reports` : the jobs that read a sheet fail with exactly this fault
-/

namespace Varsheet

open Document

/-! ## Jobs one after another -/

theorem Job.result_bind_eq_ok_iff {α β : Type} {first : Job α} {next : α → Job β} {output : β} :
    (first >>= next).result = .ok output ↔
      ∃ value, first.result = .ok value ∧ (next value).result = .ok output := by
  cases h : first.result with
  | error fault => rw [bind_of_error next h]; simp
  | ok value => rw [bind_of_ok next h]; simp

/-- Two jobs fail if the first one does, or if it has a value with which the second one fails. -/
theorem Job.result_bind_eq_error_iff {α β : Type} {first : Job α} {next : α → Job β} {fault : Fault} :
    (first >>= next).result = .error fault ↔
      first.result = .error fault ∨ ∃ value, first.result = .ok value ∧ (next value).result = .error fault := by
  cases h : first.result with
  | error other => rw [bind_of_error next h]; simp
  | ok value => rw [bind_of_ok next h]; simp

/-- A job whose second part always has a value fails as its first part does. -/
theorem Job.result_bind_error_iff {α β : Type} {first : Job α} {next : α → Job β} {fault : Fault}
    (total : ∀ value, ∃ output, (next value).result = .ok output) :
    (first >>= next).result = .error fault ↔ first.result = .error fault := by
  rw [Job.result_bind_eq_error_iff, or_iff_left]
  rintro ⟨value, _, failed⟩
  obtain ⟨output, done⟩ := total value
  rw [done] at failed
  cases failed

theorem Reference.exists_apply (options : Options) (tree : Tree) :
    ∃ output, (Reference.apply options tree).result = .ok output := by
  unfold Reference.apply Reference.resolve
  split
  · split
    · exact ⟨_, rfl⟩
    · exact ⟨_, rfl⟩
  · exact ⟨_, rfl⟩

theorem result_load_error_iff {options : Options} {text : String} {fault : Fault} :
    (load options text).result = .error fault ↔
      (parseWith options.tab text).result = .error fault :=
  Job.result_bind_error_iff (Reference.exists_apply options)

theorem result_compile_error_iff {options : Options} {text : String} {fault : Fault} :
    (compile options text).result = .error fault ↔
      (parseWith options.tab text).result = .error fault :=
  (Job.result_bind_error_iff fun _ => ⟨_, rfl⟩).trans result_load_error_iff

theorem result_compileToJson_error_iff {options : Options} {text : String} {fault : Fault} :
    (compileToJson options text).result = .error fault ↔
      (parseWith options.tab text).result = .error fault :=
  (Job.result_bind_error_iff fun _ => ⟨_, rfl⟩).trans result_load_error_iff

/-! ## The first line that lacks its colon -/

/-- The line at place `i`, counted from zero, is the first line of a text that lacks its colon. -/
def FirstLacking (text : String) (i : Nat) (line : List Char) : Prop :=
  (Text.lines text.toList)[i]? = some line ∧ LacksColon line ∧
    ∀ j < i, ∀ earlier ∈ (Text.lines text.toList)[j]?, ¬ LacksColon earlier

/-- The fault that the first line without its colon gives: it has the number of the line, counted
from one, and the line as it stands. -/
def Reports (text : String) (fault : Fault) : Prop :=
  ∃ i line, FirstLacking text i line ∧
    fault = .badLine (i + 1) (String.ofList line)
      ⟨some "Every entry needs a ':' between key and value", some 101⟩

theorem getElem?_ofText (text : String) (i : Nat) :
    (Line.ofText text)[i]? = ((Text.lines text.toList)[i]?).map fun line => ⟨i + 1, line⟩ := by
  simp [Line.ofText, List.getElem?_zipIdx, Function.comp_def, Nat.add_comm]

theorem outcome_root_eq_error_iff {tab : List Char} {lines : List Line} {bad : Line} :
    (readBlock tab 0 [] lines).outcome = .error bad ↔
      lines.find? (fun line => LacksColon line.text) = some bad := by
  have reads := reads_readBlock tab 0 [] lines
  have stop : (readBlock tab 0 [] lines).rest.head? =
      lines.find? (fun line => LacksColon line.text) := by
    rw [reads.left_eq_dropWhile, List.find?_eq_head?_dropWhile_not]
    -- no entry is outside of the root, so only such a line stops it
    congr 2
    exact funext (continues_zero tab)
  rw [reads.outcome_eq_error_iff, stop, classify_eq_malformed_iff]
  constructor
  · exact fun h => h.1
  · intro found
    exact ⟨found, by simpa using List.find?_some found⟩

theorem find?_eq_some_iff_getElem? {α : Type} {p : α → Bool} {list : List α} {a : α} :
    list.find? p = some a ↔
      p a = true ∧ ∃ i : Nat, list[i]? = some a ∧ ∀ j < i, ∀ b ∈ list[j]?, p b = false := by
  rw [List.find?_eq_some_iff_getElem]
  refine and_congr_right fun _ => ?_
  constructor
  · rintro ⟨i, bound, rfl, before⟩
    refine ⟨i, List.getElem?_eq_getElem bound, fun j earlier b member => ?_⟩
    obtain ⟨_, rfl⟩ := List.getElem?_eq_some_iff.1 member
    simpa using before j earlier
  · rintro ⟨i, here, before⟩
    obtain ⟨bound, rfl⟩ := List.getElem?_eq_some_iff.1 here
    refine ⟨i, bound, rfl, fun j earlier => ?_⟩
    rw [before j earlier _ (List.getElem?_eq_getElem (Nat.lt_trans earlier bound))]
    rfl

theorem find?_ofText_iff {text : String} {bad : Line} :
    (Line.ofText text).find? (fun line => LacksColon line.text) = some bad ↔
      ∃ i line, FirstLacking text i line ∧ bad = ⟨i + 1, line⟩ := by
  simp only [find?_eq_some_iff_getElem?, getElem?_ofText, Option.mem_def, Option.map_eq_some_iff,
    FirstLacking, decide_eq_true_eq, decide_eq_false_iff_not]
  constructor
  · rintro ⟨lacks, i, ⟨line, here, rfl⟩, before⟩
    exact ⟨i, line, ⟨here, lacks, fun j hj earlier h => before j hj _ ⟨earlier, h, rfl⟩⟩, rfl⟩
  · rintro ⟨i, line, ⟨here, lacks, before⟩, rfl⟩
    refine ⟨lacks, i, ⟨line, here, rfl⟩, ?_⟩
    rintro j hj _ ⟨earlier, h, rfl⟩
    exact before j hj earlier h

theorem parseWith_error_iff_reports {tab text : String} {fault : Fault} :
    (parseWith tab text).result = .error fault ↔ Reports text fault := by
  rw [result_parseWith]
  constructor
  · intro failed
    cases outcome : (readBlock tab.toList 0 [] (Line.ofText text)).outcome with
    | ok tree => rw [outcome] at failed; cases failed
    | error bad =>
      rw [outcome] at failed
      obtain ⟨i, line, first, rfl⟩ := find?_ofText_iff.1 (outcome_root_eq_error_iff.1 outcome)
      cases failed
      exact ⟨i, line, first, rfl⟩
  · rintro ⟨i, line, first, rfl⟩
    rw [outcome_root_eq_error_iff.2 (find?_ofText_iff.2 ⟨i, line, first, rfl⟩)]
    rfl

theorem exists_reports_iff {text : String} :
    (∃ fault, Reports text fault) ↔ ∃ line ∈ Text.lines text.toList, LacksColon line := by
  constructor
  · rintro ⟨-, i, line, ⟨here, lacks, -⟩, rfl⟩
    exact ⟨line, List.mem_of_getElem? here, lacks⟩
  · rintro ⟨line, member, lacks⟩
    obtain ⟨i, here⟩ := List.mem_iff_getElem?.1 member
    have numbered : (⟨i + 1, line⟩ : Line) ∈ Line.ofText text := by
      refine List.mem_of_getElem? (i := i) ?_
      rw [getElem?_ofText, here]
      rfl
    -- if some line lacks its colon, then there is a first one
    obtain ⟨bad, found⟩ := Option.isSome_iff_exists.1
      (List.find?_isSome.2 ⟨_, numbered, decide_eq_true lacks⟩ :
        ((Line.ofText text).find? fun line => LacksColon line.text).isSome)
    obtain ⟨j, first, least, -⟩ := find?_ofText_iff.1 found
    exact ⟨_, j, first, least, rfl⟩

/-- A sheet fails exactly if some line lacks its colon. All jobs that read it then report the first such
line, whatever the options are. -/
theorem error_iff_reports (options : Options) (text : String) :
    ((∃ fault, Reports text fault) ↔ ∃ line ∈ Text.lines text.toList, LacksColon line) ∧
      ∀ fault : Fault,
        ((parseWith options.tab text).result = .error fault ↔ Reports text fault) ∧
        ((load options text).result = .error fault ↔ Reports text fault) ∧
        ((compile options text).result = .error fault ↔ Reports text fault) ∧
        ((compileToJson options text).result = .error fault ↔ Reports text fault) := by
  refine ⟨exists_reports_iff, fun fault => ⟨?_, ?_, ?_, ?_⟩⟩
  · exact parseWith_error_iff_reports
  · exact result_load_error_iff.trans parseWith_error_iff_reports
  · exact result_compile_error_iff.trans parseWith_error_iff_reports
  · exact result_compileToJson_error_iff.trans parseWith_error_iff_reports

end Varsheet
