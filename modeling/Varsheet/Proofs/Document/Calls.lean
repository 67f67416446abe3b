import Varsheet.Proofs.Compile.Failure

/-!
# Asking a reader again

A reader can be given other units of indentation and asked for a tree any number of times. What it
answers depends on the sheet alone, but for the first tree of a sheet without mistakes: a mistake is
reported again and again, and a sheet that has been read to its end has nothing more to give.

* `Call` : what can be asked of a reader
* `Reader.after`, `Reader.answers`, `Reader.positions` : what becomes of a reader, call by call
* `pending_readTree` : every reading stops at the first line that lacks its colon
* `answers_ofText` : what a fresh reader answers to any calls
-/

namespace Varsheet.Document

/-- What can be asked of a reader. -/
inductive Call where
  | withTab (tab : String)
  | readTree
deriving DecidableEq, Repr

/-- The unit of indentation with which the first tree is read. -/
def tabInForce (tab : String) : List Call → String
  | .withTab other :: calls => tabInForce other calls
  | _ => tab

namespace Reader

def step (reader : Reader) : Call → Reader
  | .withTab tab => reader.withTab tab
  | .readTree => reader.readTree.2

def after (reader : Reader) (calls : List Call) : Reader :=
  calls.foldl step reader

/-- What comes of each call for a tree. -/
def answers (reader : Reader) : List Call → List (Except Fault Tree)
  | [] => []
  | .withTab tab :: calls => answers (reader.withTab tab) calls
  | .readTree :: calls => reader.readTree.1.result :: answers reader.readTree.2 calls

/-- The place of the reader before the calls and behind each of them. -/
def positions (reader : Reader) : List Call → List Nat
  | [] => [reader.position]
  | call :: calls => reader.position :: positions (reader.step call) calls

/-! ## One call -/

/-- The lines from the first one that lacks its colon. -/
def fromLacking (lines : List Line) : List Line :=
  lines.dropWhile fun line => !decide (LacksColon line.text)

variable {reader : Reader}

@[simp] theorem lines_step (reader : Reader) (call : Call) : (reader.step call).lines = reader.lines := by
  cases call with
  | withTab tab => rfl
  | readTree =>
    simp only [step, readTree]
    split <;> rfl

theorem pending_readTree (reader : Reader) :
    reader.readTree.2.pending = fromLacking reader.pending := by
  have stops := (reads_readBlock reader.tab.toList 0 [] reader.pending).left_eq_dropWhile
  rw [funext (continues_zero reader.tab.toList)] at stops
  simp only [readTree]
  split <;> exact stops

theorem readTree_of_lacking {bad : Line}
    (lacking : reader.pending.find? (fun line => LacksColon line.text) = some bad) :
    reader.readTree.1.result = .error bad.fault := by
  simp only [readTree, outcome_root_eq_error_iff.2 lacking]
  rfl

theorem readTree_of_finished (finished : reader.pending = []) :
    reader.readTree.1.result = .ok [] := by
  have outcome : (readBlock reader.tab.toList 0 [] reader.pending).outcome = .ok [] := by
    rw [finished]
    exact congrArg Prod.fst readBlock_nil
  simp only [readTree, outcome]

theorem find?_fromLacking (lines : List Line) :
    (fromLacking lines).find? (fun line => LacksColon line.text) =
      lines.find? (fun line => LacksColon line.text) := by
  rw [List.find?_eq_head?_dropWhile_not, List.find?_eq_head?_dropWhile_not]
  exact congrArg List.head? (dropWhile_dropWhile_of_imp (fun _ h => h) lines)

theorem position_le_step (reader : Reader) (call : Call) :
    reader.position ≤ (reader.step call).position := by
  have shorter : (reader.step call).pending.length ≤ reader.pending.length := by
    cases call with
    | withTab tab => exact Nat.le_refl _
    | readTree =>
      rw [step, pending_readTree]
      exact (List.dropWhile_sublist _).length_le
  simp only [position, lines_step]
  omega

/-! ## Any number of calls -/

/-- If every reading that starts from certain lines comes to one answer and leaves such lines again, then this
is the answer to all calls. -/
theorem answers_eq_replicate {P : List Line → Prop} {answer : Except Fault Tree}
    (once : ∀ reader : Reader, P reader.pending →
      reader.readTree.1.result = answer ∧ P reader.readTree.2.pending)
    (reader : Reader) (calls : List Call) (ahead : P reader.pending) :
    reader.answers calls = List.replicate (calls.count .readTree) answer := by
  induction calls generalizing reader with
  | nil => rfl
  | cons call calls ih =>
    cases call with
    | withTab tab =>
      rw [List.count_cons_of_ne (by simp)]
      exact ih (reader.withTab tab) ahead
    | readTree =>
      obtain ⟨answered, still⟩ := once reader ahead
      rw [answers, answered, ih _ still, List.count_cons_self, List.replicate_succ]

theorem answers_of_lacking {bad : Line} (reader : Reader) (calls : List Call)
    (lacking : reader.pending.find? (fun line => LacksColon line.text) = some bad) :
    reader.answers calls = List.replicate (calls.count .readTree) (.error bad.fault) := by
  refine answers_eq_replicate
    (P := fun lines => lines.find? (fun line => LacksColon line.text) = some bad) ?_ reader calls lacking
  intro reader lacking
  exact ⟨readTree_of_lacking lacking, by rw [pending_readTree, find?_fromLacking, lacking]⟩

theorem answers_of_finished (reader : Reader) (calls : List Call) (finished : reader.pending = []) :
    reader.answers calls = List.replicate (calls.count .readTree) (.ok []) := by
  refine answers_eq_replicate (P := fun lines => lines = []) ?_ reader calls finished
  intro reader finished
  exact ⟨readTree_of_finished finished, by rw [pending_readTree, finished]; rfl⟩

theorem pending_after_of_stopped (reader : Reader) (calls : List Call)
    (stopped : fromLacking reader.pending = reader.pending) :
    (reader.after calls).pending = reader.pending := by
  induction calls generalizing reader with
  | nil => rfl
  | cons call calls ih =>
    have same : (reader.step call).pending = reader.pending := by
      cases call with
      | withTab tab => rfl
      | readTree => rw [step, pending_readTree, stopped]
    exact (ih (reader.step call) (by rw [same, stopped])).trans same

/-- The first reading goes as far as all of them, since the next one starts where it stops. -/
theorem pending_after (reader : Reader) (calls : List Call) (asked : .readTree ∈ calls) :
    (reader.after calls).pending = fromLacking reader.pending := by
  induction calls generalizing reader with
  | nil => cases asked
  | cons call calls ih =>
    cases call with
    | withTab tab => exact ih (reader.withTab tab) (List.mem_of_ne_of_mem (by simp) asked)
    | readTree =>
      have stopped : fromLacking reader.readTree.2.pending = reader.readTree.2.pending := by
        rw [pending_readTree]
        exact dropWhile_dropWhile_of_imp (fun _ h => h) reader.pending
      exact (pending_after_of_stopped reader.readTree.2 calls stopped).trans (pending_readTree reader)

theorem lines_after (reader : Reader) (calls : List Call) :
    (reader.after calls).lines = reader.lines := by
  induction calls generalizing reader with
  | nil => rfl
  | cons call calls ih => exact (ih (reader.step call)).trans (lines_step reader call)

theorem position_le_of_mem_positions {place : Nat} (calls : List Call)
    (member : place ∈ reader.positions calls) :
    reader.position ≤ place ∧ place ≤ reader.lines.length := by
  have within (reader : Reader) : reader.position ≤ reader.lines.length := Nat.sub_le _ _
  induction calls generalizing reader with
  | nil =>
    rw [positions, List.mem_singleton] at member
    rw [member]
    exact ⟨Nat.le_refl _, within reader⟩
  | cons call calls ih =>
    rw [positions, List.mem_cons] at member
    obtain rfl | member := member
    · exact ⟨Nat.le_refl _, within reader⟩
    · obtain ⟨later, bounded⟩ := ih member
      rw [lines_step] at bounded
      exact ⟨Nat.le_trans (position_le_step reader call) later, bounded⟩

theorem pairwise_positions (reader : Reader) (calls : List Call) :
    (reader.positions calls).Pairwise (· ≤ ·) := by
  induction calls generalizing reader with
  | nil => exact List.pairwise_singleton _ _
  | cons call calls ih =>
    refine List.pairwise_cons.2 ⟨fun place member => ?_, ih (reader.step call)⟩
    have later := (position_le_of_mem_positions calls member).1
    exact Nat.le_trans (position_le_step reader call) later

/-! ## A fresh reader -/

theorem length_ofText (text : String) : (Line.ofText text).length = (Text.lines text.toList).length := by
  simp [Line.ofText]

/-- A sheet without mistakes is read to its end by the first call for a tree. -/
theorem answers_of_sound {tab text : String} {tree : Tree} (calls : List Call)
    (sound : fromLacking (Line.ofText text) = [])
    (parsed : (parseWith (tabInForce tab calls) text).result = .ok tree) :
    ((ofText text).withTab tab).answers calls =
      (.ok tree :: List.replicate (calls.count .readTree) (.ok [])).take (calls.count .readTree) := by
  induction calls generalizing tab with
  | nil => rfl
  | cons call calls ih =>
    cases call with
    | withTab other =>
      rw [List.count_cons_of_ne (by simp)]
      exact ih parsed
    | readTree =>
      have first : ((ofText text).withTab tab).readTree.1.result = .ok tree := parsed
      have finished : ((ofText text).withTab tab).readTree.2.pending = [] := by
        rw [pending_readTree]
        exact sound
      rw [answers, first, answers_of_finished _ calls finished, List.count_cons_self, List.take_succ_cons,
        List.take_replicate, Nat.min_eq_left (Nat.le_succ _)]

theorem position_after_ofText (text : String) (calls : List Call) (asked : .readTree ∈ calls) :
    ((ofText text).after calls).position =
      (Line.ofText text).length - (fromLacking (Line.ofText text)).length := by
  rw [position, lines_after, pending_after _ calls asked]
  rfl

theorem length_fromLacking_of_firstLacking {text : String} {i : Nat} {line : List Char}
    (first : FirstLacking text i line) :
    (Line.ofText text).length - (fromLacking (Line.ofText text)).length = i := by
  obtain ⟨here, lacks, before⟩ := first
  have here' : (Line.ofText text)[i]? = some ⟨i + 1, line⟩ := by rw [getElem?_ofText, here]; rfl
  obtain ⟨bound, there⟩ := List.getElem?_eq_some_iff.1 here'
  have place : (Line.ofText text).findIdx (fun line => LacksColon line.text) = i := by
    refine (List.findIdx_eq bound).2 ⟨by rw [there]; exact decide_eq_true lacks, fun j earlier => ?_⟩
    have colon := before j earlier (Line.ofText text)[j].text ?_
    · exact decide_eq_false colon
    · have there := List.getElem?_eq_getElem (Nat.lt_trans earlier bound)
      rw [getElem?_ofText, Option.map_eq_some_iff] at there
      obtain ⟨text', found, same⟩ := there
      rw [found, ← same]
      rfl
  have stops : fromLacking (Line.ofText text) = (Line.ofText text).drop i := by
    rw [fromLacking, List.dropWhile_eq_drop_findIdx_not]
    simp only [Bool.not_not, place]
  rw [stops, List.length_drop]
  omega

/-- A fresh reader reports the first line that lacks its colon at every call for a tree, whatever units of
indentation it is given in between, and stays on that line. If there is no such line, the first call gives
the tree of the sheet for the unit of indentation that is in force, and every later one an empty tree. The
reader never goes back. -/
theorem answers_ofText (text : String) (calls : List Call) :
    ((∃ line ∈ Text.lines text.toList, LacksColon line) →
      ∃ i line, FirstLacking text i line ∧
        (ofText text).answers calls =
          List.replicate (calls.count .readTree)
            (.error (.badLine (i + 1) (String.ofList line)
              ⟨some "Every entry needs a ':' between key and value", some 101⟩)) ∧
        (.readTree ∈ calls → ((ofText text).after calls).position = i)) ∧
    ((∀ line ∈ Text.lines text.toList, ¬ LacksColon line) →
      ∃ tree, (parseWith (tabInForce Options.defaultTab calls) text).result = .ok tree ∧
        (ofText text).answers calls =
          (.ok tree :: List.replicate (calls.count .readTree) (.ok [])).take (calls.count .readTree) ∧
        (.readTree ∈ calls →
          ((ofText text).after calls).position = (Text.lines text.toList).length)) ∧
    ((ofText text).positions calls).Pairwise (· ≤ ·) ∧
      ∀ place ∈ (ofText text).positions calls, place ≤ (Text.lines text.toList).length := by
  refine ⟨fun mistaken => ?_, fun sound => ?_, pairwise_positions _ calls, fun place member => ?_⟩
  · obtain ⟨_, i, line, first, -⟩ := exists_reports_iff.2 mistaken
    refine ⟨i, line, first, ?_, fun asked => ?_⟩
    · exact answers_of_lacking (ofText text) calls (find?_ofText_iff.2 ⟨i, line, first, rfl⟩)
    · rw [position_after_ofText text calls asked, length_fromLacking_of_firstLacking first]
  · have finished : fromLacking (Line.ofText text) = [] := by
      refine List.dropWhile_eq_nil_iff.2 fun line member => ?_
      obtain ⟨i, here⟩ := List.mem_iff_getElem?.1 member
      rw [getElem?_ofText, Option.map_eq_some_iff] at here
      obtain ⟨text', found, rfl⟩ := here
      simpa using sound text' (List.mem_of_getElem? found)
    cases parsed : (parseWith (tabInForce Options.defaultTab calls) text).result with
    | error fault =>
      have reported := exists_reports_iff.1 ⟨fault, parseWith_error_iff_reports.1 parsed⟩
      obtain ⟨line, member, lacks⟩ := reported
      exact absurd lacks (sound line member)
    | ok tree =>
      refine ⟨tree, rfl, answers_of_sound calls finished parsed, fun asked => ?_⟩
      rw [position_after_ofText text calls asked, finished, length_ofText]
      rfl
  · rw [← length_ofText]
    exact (position_le_of_mem_positions calls member).2

end Reader

end Varsheet.Document
