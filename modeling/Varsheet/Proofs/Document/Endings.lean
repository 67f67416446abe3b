import Varsheet.Proofs.Document.Sheets

/-!
# Line endings

A text is cut into lines in two steps: its endings are made equal, and what results is cut at the line feeds. The first
step can bring a carriage return and a line feed together that were apart before; they still end two lines, as the
second step does not look at pairs. A single scan that looks one character ahead gives the same lines.

* `scan` : the scan
* `lines_eq_scan` : it gives the lines of a text
* `Ending`, `joined` : lines with an ending of its own behind each
* `Separated` : no two endings run together
* `lines_joined` : the lines are found again, whichever endings they have
* `lines_scanned` : both, and what follows for sheets
-/

namespace Varsheet.Text

/-! ## One scan -/

/-- The lines of a text from left to right. A carriage return with the line feed behind it ends a line, and so does
either of them alone. -/
def scan : List Char → List (List Char)
  | '\r' :: '\n' :: rest => [] :: scan rest
  | '\r' :: rest => [] :: scan rest
  | '\n' :: rest => [] :: scan rest
  | c :: rest => (scan rest).modifyHead (c :: ·)
  | [] => [[]]

theorem splitAt_cons_of_ne {sep c : Char} (other : c ≠ sep) (rest : List Char) :
    splitAt sep (c :: rest) = (splitAt sep rest).modifyHead (c :: ·) := by
  rw [splitAt, if_neg other]
  split
  · rename_i empty
    exact absurd empty (splitAt_ne_nil sep rest)
  · rename_i piece pieces parts
    rw [parts, List.modifyHead_cons]

theorem lines_feed (rest : List Char) : lines ('\n' :: rest) = [] :: lines rest := rfl

theorem lines_pair (rest : List Char) : lines ('\r' :: '\n' :: rest) = [] :: lines rest := rfl

theorem lines_return {rest : List Char} (alone : rest.head? ≠ some '\n') :
    lines ('\r' :: rest) = [] :: lines rest := by
  have kept : joinReturns ('\r' :: rest) = '\r' :: joinReturns rest := by
    rw [joinReturns]
    rintro behind - rfl
    exact alone rfl
  rw [lines, unifyEndings, kept]
  rfl

theorem lines_cons {c : Char} (noReturn : c ≠ '\r') (noFeed : c ≠ '\n') (rest : List Char) :
    lines (c :: rest) = (lines rest).modifyHead (c :: ·) := by
  have kept : joinReturns (c :: rest) = c :: joinReturns rest := by
    rw [joinReturns]
    rintro behind rfl
    exact absurd rfl noReturn
  rw [lines, unifyEndings, kept, List.map_cons, if_neg noReturn, splitAt_cons_of_ne noFeed]
  rfl

theorem lines_eq_scan (text : List Char) : lines text = scan text := by
  fun_induction scan text with
  | case1 rest ih => rw [lines_pair, ih]
  | case2 rest noPair ih =>
    -- a carriage return that is not part of a pair stands alone, also in front of another one
    have alone : rest.head? ≠ some '\n' := by
      intro first
      obtain ⟨behind, rfl⟩ := List.head?_eq_some_iff.1 first
      exact noPair behind rfl
    rw [lines_return alone, ih]
  | case3 rest ih => rw [lines_feed, ih]
  | case4 c rest _ noReturn noFeed ih => rw [lines_cons noReturn noFeed, ih]
  | case5 => rfl

/-! ## Endings of any kind -/

/-- What can stand at the end of a line. -/
inductive Ending where
  | feed
  | loneReturn
  | pair
deriving DecidableEq, Repr

def Ending.chars : Ending → List Char
  | .feed => ['\n']
  | .loneReturn => ['\r']
  | .pair => ['\r', '\n']

/-- Lines, each with its ending, and a last line behind them. -/
def joined : List (List Char × Ending) → List Char → List Char
  | [], last => last
  | (line, ending) :: ended, last => line ++ (ending.chars ++ joined ended last)

/-- No line feed follows a carriage return that is an ending alone. -/
def Separated : List (List Char × Ending) → List Char → Prop
  | [], _ => True
  | (_, ending) :: ended, last =>
    (ending = .loneReturn → (joined ended last).head? ≠ some '\n') ∧ Separated ended last

theorem lines_append_of_oneLine {line : List Char} (oneLine : OneLine line) (rest : List Char) :
    lines (line ++ rest) = (lines rest).modifyHead (line ++ ·) := by
  induction line with
  | nil => exact (congrFun List.modifyHead_id (lines rest)).symm
  | cons c line ih =>
    obtain ⟨noReturn, noFeed⟩ := oneLine
    rw [List.mem_cons, not_or] at noReturn noFeed
    rw [List.cons_append, lines_cons (Ne.symm noReturn.1) (Ne.symm noFeed.1), ih ⟨noReturn.2, noFeed.2⟩,
      List.modifyHead_modifyHead]
    rfl

theorem lines_ending_append {ending : Ending} {rest : List Char}
    (separated : ending = .loneReturn → rest.head? ≠ some '\n') :
    lines (ending.chars ++ rest) = [] :: lines rest := by
  cases ending with
  | feed => exact lines_feed rest
  | loneReturn => exact lines_return (separated rfl)
  | pair => exact lines_pair rest

theorem lines_joined {ended : List (List Char × Ending)} {last : List Char}
    (oneLine : ∀ line ∈ ended.map Prod.fst, OneLine line) (lastOneLine : OneLine last)
    (separated : Separated ended last) : lines (joined ended last) = ended.map Prod.fst ++ [last] := by
  induction ended with
  | nil =>
    have whole := lines_append_of_oneLine lastOneLine []
    rwa [List.append_nil, show lines [] = [[]] from rfl, List.modifyHead_cons, List.append_nil] at whole
  | cons first ended ih =>
    obtain ⟨line, ending⟩ := first
    obtain ⟨here, later⟩ := List.forall_mem_cons.1 oneLine
    rw [joined, lines_append_of_oneLine here, lines_ending_append separated.1, ih later separated.2,
      List.modifyHead_cons, List.append_nil]
    rfl

end Varsheet.Text

namespace Varsheet.Document

open Text

/-! ## Sheets -/

theorem map_text_ofText (text : String) : (Reader.ofText text).lines.map Line.text = lines text.toList :=
  map_text_numbered 1 (lines text.toList)

/-- Of a text only its lines are read. -/
theorem parseWith_of_lines_eq {text other : String} (same : lines other.toList = lines text.toList) (tab : String) :
    parseWith tab other = parseWith tab text := by
  have numbered : Line.ofText other = Line.ofText text := by rw [Line.ofText, same, Line.ofText]
  simp only [parseWith, Reader.ofText, numbered]

/-- The lines that a reader starts with are those of a single scan. Lines that are put together with any endings are
found again, as long as no line feed comes to stand behind a carriage return that is an ending alone. So the endings
make no difference to what is read, to which line is reported, or to what is said of it. -/
theorem lines_scanned :
    (∀ text : String, (Reader.ofText text).lines.map Line.text = scan text.toList) ∧
    ∀ (ended : List (List Char × Ending)) (last : List Char), (∀ line ∈ ended.map Prod.fst, OneLine line) →
      OneLine last → Separated ended last →
        (Reader.ofText (String.ofList (joined ended last))).lines.map Line.text = ended.map Prod.fst ++ [last] ∧
        ∀ others : List (List Char × Ending), others.map Prod.fst = ended.map Prod.fst → Separated others last →
          ∀ tab, parseWith tab (String.ofList (joined others last)) =
            parseWith tab (String.ofList (joined ended last)) := by
  refine ⟨fun text => (map_text_ofText text).trans (lines_eq_scan text.toList), ?_⟩
  intro ended last oneLine lastOneLine separated
  have found := lines_joined oneLine lastOneLine separated
  refine ⟨by rw [map_text_ofText, String.toList_ofList, found], fun others same otherSeparated tab => ?_⟩
  have otherFound := lines_joined (same ▸ oneLine) lastOneLine otherSeparated
  apply parseWith_of_lines_eq
  rw [String.toList_ofList, String.toList_ofList, otherFound, found, same]

/-- An empty line between a carriage return alone and a pair. With line feeds instead the same line is reported. -/
theorem lines_scanned_mixed :
    (Reader.ofText "a:\r\r\n\tb").lines.map Line.text = ["a:".toList, [], "\tb".toList] ∧
      (parseWith "  " "a:\n\n\tb").result = .error (.missingColon 3 "\tb") ∧
      (parseWith "  " "a:\r\r\n\tb").result = .error (.missingColon 3 "\tb") := by
  obtain ⟨found, same⟩ := lines_scanned.2 [("a:".toList, .loneReturn), ([], .pair)] "\tb".toList (by decide) (by decide)
    ⟨fun _ => by decide, nofun, trivial⟩
  have reported : (parseWith "  " "a:\n\n\tb").result = .error (.missingColon 3 "\tb") := by decide +kernel
  refine ⟨found, reported, ?_⟩
  have equal := same [("a:".toList, .feed), ([], .feed)] rfl ⟨nofun, nofun, trivial⟩ "  "
  exact (congrArg Job.result equal).symm.trans reported

end Varsheet.Document
