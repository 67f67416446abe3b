import Mathlib.Order.Bounds.Basic
import Varsheet.Proofs.Document.Extent

/-!
# The stretch of a block

A reader that is asked for a block takes the lines up to the first entry outside of it. Blocks inside are entered and
left on the way, and some of them are left at the very line that ends this one; none of them goes beyond it. So there
are two ways to cut the lines that are ahead: in front of the entry that ends the block, or in front of a line that
lacks its colon, if there is one before.

* `Outside` : the entries that end a block
* `Reader.takeBlock` : a reader is asked for a block
* `Reads.left_of_sound`, `Reads.left_of_lacking` : where reading stops for either cut
* `Reads.exists_stretch` : the same stretch is read into the same tree, whatever comes behind it
* `Reader.takeBlock_stretch` : all of this for the place of a reader
-/

namespace Varsheet.Document

/-- The line is neither blank nor a comment, has a colon, and is less deep than the block at `level`. -/
def Outside (tab : List Char) (level : Nat) (line : List Char) : Prop :=
  Text.trim line ≠ [] ∧ (Text.trim line).head? ≠ some '#' ∧ ':' ∈ line ∧ depth tab line < level

instance (tab : List Char) (level : Nat) (line : List Char) : Decidable (Outside tab level line) :=
  inferInstanceAs (Decidable (_ ∧ _ ∧ _ ∧ _))

/-- Lines that end the block at `level`: there are none, or the first one is an entry outside of it. -/
def Stops (tab : List Char) (level : Nat) (lines : List Line) : Prop :=
  ∀ line ∈ lines.head?, Outside tab level line.text

section

variable {tab : List Char} {level : Nat} {line : Line}

theorem depth_of_classify {text : List Char} {entry : Entry} (kind : classify tab text = .entry entry) :
    entry.depth = depth tab text := by
  obtain ⟨key, value, -, -, -, rfl⟩ := exists_parts_of_classify kind
  rfl

theorem outside_iff_exists_entry {text : List Char} :
    Outside tab level text ↔ ∃ entry, classify tab text = .entry entry ∧ entry.depth < level := by
  constructor
  · rintro ⟨filled, plain, colon, outside⟩
    cases kind : classify tab text with
    | passed =>
      rw [classify_of_solid filled plain] at kind
      split at kind <;> cases kind
    | malformed => exact absurd colon ((classify_eq_malformed_iff tab text).1 kind).2.2
    | entry entry => exact ⟨entry, rfl, (depth_of_classify kind).symm ▸ outside⟩
  · rintro ⟨entry, kind, outside⟩
    rw [depth_of_classify kind] at outside
    obtain ⟨key, value, parts, -, noComment, -⟩ := exists_parts_of_classify kind
    refine ⟨by simp [parts], ?_, colon_mem_trim_iff.1 (by simp [parts]), outside⟩
    rw [parts]
    -- without a name the colon stands first
    cases key with
    | nil => simp
    | cons c rest => simpa using noComment

/-- A block goes on behind any line but the two kinds that stop it. -/
theorem continues_eq_false_iff :
    continues tab level line = false ↔ Outside tab level line.text ∨ LacksColon line.text := by
  rw [outside_iff_exists_entry, ← classify_eq_malformed_iff tab]
  cases kind : classify tab line.text with
  | passed => simp [continues_of_passed kind]
  | malformed => simp [continues_of_malformed kind]
  | entry entry => simp [continues_of_entry kind]

theorem Outside.not_lacksColon {text : List Char} (outside : Outside tab level text) : ¬ LacksColon text :=
  fun lacks => lacks.2.2 outside.2.2.1

theorem Outside.of_le {inner : Nat} {text : List Char} (outside : Outside tab level text) (le : level ≤ inner) :
    Outside tab inner text :=
  ⟨outside.1, outside.2.1, outside.2.2.1, Nat.lt_of_lt_of_le outside.2.2.2 le⟩

end

/-! ## Where reading stops -/

section

variable {tab : List Char} {level : Nat} {tree : Tree} {line bad : Line} {lines front back left : List Line}
  {outcome : Except Line Tree}

theorem continues_of_sound (inside : ∀ line ∈ front, ¬ Outside tab level line.text)
    (sound : ∀ line ∈ front, ¬ LacksColon line.text) : ∀ line ∈ front, continues tab level line = true := by
  intro line member
  by_contra stops
  rw [Bool.not_eq_true, continues_eq_false_iff] at stops
  exact stops.elim (inside line member) (sound line member)

/-- Without a line that lacks its colon, a block takes all lines in front of the entry that ends it. -/
theorem Reads.left_of_sound (reads : Reads tab level tree (front ++ back) outcome left)
    (inside : ∀ line ∈ front, ¬ Outside tab level line.text) (stops : Stops tab level back)
    (sound : ∀ line ∈ front, ¬ LacksColon line.text) : left = back ∧ ∃ out, outcome = .ok out := by
  have taken : left = back := by
    rw [reads.left_eq_dropWhile, List.dropWhile_append_of_pos (continues_of_sound inside sound)]
    cases back with
    | nil => rfl
    | cons line rest =>
      exact List.dropWhile_cons_of_neg (by simp [continues_eq_false_iff.2 (.inl (stops line rfl))])
  refine ⟨taken, ?_⟩
  cases outcome with
  | ok out => exact ⟨out, rfl⟩
  | error bad =>
    obtain ⟨first, kind⟩ := (reads.outcome_eq_error_iff bad).1 rfl
    rw [taken] at first
    exact absurd ((classify_eq_malformed_iff tab bad.text).1 kind) (stops bad first).not_lacksColon

/-- A line that lacks its colon stops a block that has come as far as this line. -/
theorem Reads.left_of_lacking (reads : Reads tab level tree (front ++ bad :: back) outcome left)
    (inside : ∀ line ∈ front, ¬ Outside tab level line.text) (sound : ∀ line ∈ front, ¬ LacksColon line.text)
    (lacks : LacksColon bad.text) : left = bad :: back ∧ outcome = .error bad := by
  have taken : left = bad :: back := by
    rw [reads.left_eq_dropWhile, List.dropWhile_append_of_pos (continues_of_sound inside sound)]
    exact List.dropWhile_cons_of_neg (by simp [continues_eq_false_iff.2 (.inr lacks)])
  refine ⟨taken, (reads.outcome_eq_error_iff bad).2 ⟨by rw [taken]; rfl, ?_⟩⟩
  exact (classify_eq_malformed_iff tab bad.text).2 lacks

/-- A block that was read without failure is at an entry outside of it, or at the end. -/
theorem Reads.stops {out : Tree} (reads : Reads tab level tree lines (.ok out) left) : Stops tab level left := by
  intro line first
  have stopped : continues tab level line = false := by
    rw [reads.left_eq_dropWhile] at first
    have := List.head?_dropWhile_not (continues tab level) lines
    rwa [show (lines.dropWhile (continues tab level)).head? = some line from first] at this
  refine (continues_eq_false_iff.1 stopped).resolve_right fun lacks => ?_
  exact nomatch (reads.outcome_eq_error_iff line).2 ⟨first, (classify_eq_malformed_iff tab _).2 lacks⟩

theorem Stops.reads (stops : Stops tab level back) (tree : Tree) : Reads tab level tree back (.ok tree) back := by
  cases back with
  | nil => exact .nothing
  | cons line rest =>
    obtain ⟨entry, kind, outside⟩ := outside_iff_exists_entry.1 (stops line rfl)
    exact .shallow kind outside

/-- What ends a block ends the blocks inside of it, and of the lines in front only the texts count. -/
theorem Stops.append {inner : Nat} {others : List Line} (innerStops : Stops tab inner (front ++ left))
    (stops : Stops tab level back) (le : level ≤ inner) (same : others.map Line.text = front.map Line.text) :
    Stops tab inner (others ++ back) := by
  intro line first
  cases others with
  | nil => exact (stops line first).of_le le
  | cons other others =>
    cases first
    cases front with
    | nil => cases same
    | cons here front =>
      rw [(List.cons.inj same).1]
      exact innerStops here rfl

/-- The lines that a block takes are read into the same tree wherever they stand, if something ends the block behind
them. -/
theorem Reads.exists_stretch (reads : Reads tab level tree lines outcome left) :
    ∀ {out : Tree}, outcome = .ok out → ∃ front, lines = front ++ left ∧
      ∀ others back : List Line, others.map Line.text = front.map Line.text → Stops tab level back →
        Reads tab level tree (others ++ back) (.ok out) back := by
  induction reads with
  | nothing =>
    rintro _ ⟨⟩
    refine ⟨[], rfl, fun others back same stops => ?_⟩
    rw [List.map_eq_nil_iff.1 same]
    exact stops.reads _
  | @passed _ _ line _ _ _ kind _ ih =>
    intro _ ok
    obtain ⟨front, rfl, again⟩ := ih ok
    refine ⟨line :: front, rfl, fun others back same stops => ?_⟩
    obtain ⟨other, others, rfl, text, same⟩ := List.map_eq_cons_iff.1 same
    exact .passed (text.symm ▸ kind) (again others back same stops)
  | malformed => rintro _ ⟨⟩
  | shallow kind outside =>
    rintro _ ⟨⟩
    refine ⟨[], rfl, fun others back same stops => ?_⟩
    rw [List.map_eq_nil_iff.1 same]
    exact stops.reads _
  | @scalar _ _ line _ _ _ _ kind inside filled _ ih =>
    intro _ ok
    obtain ⟨front, rfl, again⟩ := ih ok
    refine ⟨line :: front, rfl, fun others back same stops => ?_⟩
    obtain ⟨other, others, rfl, text, same⟩ := List.map_eq_cons_iff.1 same
    exact .scalar (text.symm ▸ kind) inside filled (again others back same stops)
  | @group _ _ _ line _ _ _ _ _ kind inside bare inner _ ihInner ihNext =>
    intro _ ok
    obtain ⟨behind, rfl, again⟩ := ihNext ok
    obtain ⟨front, rfl, innerAgain⟩ := ihInner rfl
    refine ⟨line :: (front ++ behind), by simp, fun others back same stops => ?_⟩
    obtain ⟨other, _, rfl, text, same⟩ := List.map_eq_cons_iff.1 same
    rw [List.map_append] at same
    obtain ⟨others, rest, rfl, same, sameBehind⟩ := List.map_eq_append_iff.1 same
    -- the inner block ends where it did: at the rest of the stretch, or right behind it
    have innerStops := inner.stops.append stops (Nat.le_succ _) sameBehind
    rw [List.cons_append, List.append_assoc]
    exact .group (text.symm ▸ kind) inside bare (innerAgain others _ same innerStops)
      (again rest back sameBehind stops)
  | failed => rintro _ ⟨⟩

end

/-! ## Places -/

namespace Reader

/-- Reads the block at `level` from the current line on. -/
def takeBlock (reader : Reader) (level : Nat) : Except Line Tree × Reader :=
  let reading := readBlock reader.tab.toList level [] reader.pending
  (reading.outcome,
    { reader with pending := reading.rest, isSuffix := reading.isSuffix.trans reader.isSuffix })

/-- Asking for a tree is asking for the block at the root. -/
theorem readTree_eq_takeBlock (reader : Reader) :
    reader.readTree.1.result = (reader.takeBlock 0).1.mapError Line.fault ∧
      reader.readTree.2 = (reader.takeBlock 0).2 := by
  simp only [readTree, takeBlock]
  cases (readBlock reader.tab.toList 0 [] reader.pending).outcome <;> exact ⟨rfl, rfl⟩

/-- The places from the current line on where the block at `level` could end: at an entry outside of it, or behind the
last line. -/
def ends (reader : Reader) (level : Nat) : Set Nat :=
  {i | reader.position ≤ i ∧ (i = reader.lines.length ∨
    ∃ line ∈ reader.lines[i]?, Outside reader.tab.toList level line.text)}

/-- The places from the current line on where a line lacks its colon. -/
def lacking (reader : Reader) : Set Nat :=
  {i | reader.position ≤ i ∧ ∃ line ∈ reader.lines[i]?, LacksColon line.text}

variable {reader : Reader} {level : Nat} {front back : List Line} {line : Line}

theorem position_add_length_pending (reader : Reader) :
    reader.position + reader.pending.length = reader.lines.length :=
  Nat.sub_add_cancel reader.isSuffix.length_le

/-- The current line is the first one that is pending. -/
theorem getElem?_position_add (reader : Reader) (i : Nat) :
    reader.lines[reader.position + i]? = reader.pending[i]? := by
  rw [← List.getElem?_drop]
  exact congrArg (·[i]?) (List.suffix_iff_eq_drop.1 reader.isSuffix).symm

theorem getElem?_front (parts : reader.pending = front ++ back) {i : Nat} (first : reader.position ≤ i)
    (last : i < reader.position + front.length) (here : reader.lines[i]? = some line) : line ∈ front := by
  obtain ⟨j, rfl⟩ := Nat.exists_eq_add_of_le first
  rw [getElem?_position_add, parts, List.getElem?_append_left (by omega)] at here
  exact List.mem_of_getElem? here

theorem getElem?_back (parts : reader.pending = front ++ back) :
    reader.lines[reader.position + front.length]? = back.head? := by
  rw [getElem?_position_add, parts, List.getElem?_append_right (Nat.le_refl _), Nat.sub_self,
    List.head?_eq_getElem?]

theorem extract_front (parts : reader.pending = front ++ back) :
    reader.lines.extract reader.position (reader.position + front.length) = front := by
  have ahead : reader.lines.drop reader.position = reader.pending :=
    (List.suffix_iff_eq_drop.1 reader.isSuffix).symm
  rw [List.extract_eq_take_drop, ahead, parts, Nat.add_sub_cancel_left, List.take_left]

/-- A reader that still has `back` ahead of it stands right in front of that. -/
theorem position_of_pending {after : Reader} (same : after.lines = reader.lines)
    (parts : reader.pending = front ++ back) (ahead : after.pending = back) :
    after.position = reader.position + front.length := by
  have total := reader.position_add_length_pending
  rw [parts, List.length_append] at total
  rw [position, same, ahead]
  omega

theorem isLeast_ends (parts : reader.pending = front ++ back)
    (inside : ∀ line ∈ front, ¬ Outside reader.tab.toList level line.text)
    (stops : Stops reader.tab.toList level back) :
    IsLeast (reader.ends level) (reader.position + front.length) := by
  have total := reader.position_add_length_pending
  rw [parts, List.length_append] at total
  constructor
  · refine ⟨Nat.le_add_right _ _, ?_⟩
    cases back with
    | nil => exact .inl total
    | cons line rest => exact .inr ⟨line, getElem?_back parts, stops line rfl⟩
  · rintro i ⟨first, here⟩
    by_contra early
    obtain rfl | ⟨line, here, outside⟩ := here
    · omega
    · exact inside line (getElem?_front parts first (Nat.not_le.1 early) here) outside

theorem isLeast_lacking (parts : reader.pending = front ++ line :: back)
    (sound : ∀ line ∈ front, ¬ LacksColon line.text) (lacks : LacksColon line.text) :
    IsLeast reader.lacking (reader.position + front.length) := by
  constructor
  · exact ⟨Nat.le_add_right _ _, line, getElem?_back parts, lacks⟩
  · rintro i ⟨first, other, here, otherLacks⟩
    by_contra early
    exact sound other (getElem?_front parts first (Nat.not_le.1 early) here) otherLacks

/-- The lines ahead are cut in front of the first entry outside of a block. -/
theorem exists_cut (reader : Reader) (level : Nat) :
    ∃ front back, reader.pending = front ++ back ∧
      (∀ line ∈ front, ¬ Outside reader.tab.toList level line.text) ∧ Stops reader.tab.toList level back := by
  refine ⟨_, _, (List.takeWhile_append_dropWhile (p := fun line : Line =>
    !decide (Outside reader.tab.toList level line.text))).symm, ?_, ?_⟩
  · intro line member
    simpa using List.mem_takeWhile_imp member
  · intro line first
    have stopped := List.head?_dropWhile_not
      (fun line : Line => !decide (Outside reader.tab.toList level line.text)) reader.pending
    rw [show (reader.pending.dropWhile _).head? = some line from first] at stopped
    simpa using stopped

theorem reads_takeBlock (reader : Reader) (level : Nat) :
    Reads reader.tab.toList level [] reader.pending (reader.takeBlock level).1
      (reader.takeBlock level).2.pending :=
  reads_readBlock reader.tab.toList level [] reader.pending

theorem takeBlock_of_sound (parts : reader.pending = front ++ back)
    (inside : ∀ line ∈ front, ¬ Outside reader.tab.toList level line.text)
    (stops : Stops reader.tab.toList level back) (sound : ∀ line ∈ front, ¬ LacksColon line.text) :
    (reader.takeBlock level).2.position = reader.position + front.length ∧
      ∃ tree, (reader.takeBlock level).1 = .ok tree := by
  have reads := reader.reads_takeBlock level
  rw [parts] at reads
  obtain ⟨ahead, read⟩ := reads.left_of_sound inside stops sound
  exact ⟨position_of_pending rfl parts ahead, read⟩

theorem takeBlock_of_lacking {bad : Line} (parts : reader.pending = front ++ bad :: back)
    (inside : ∀ line ∈ front, ¬ Outside reader.tab.toList level line.text)
    (sound : ∀ line ∈ front, ¬ LacksColon line.text) (lacks : LacksColon bad.text) :
    (reader.takeBlock level).2.position = reader.position + front.length ∧
      (reader.takeBlock level).1 = .error bad := by
  have reads := reader.reads_takeBlock level
  rw [parts] at reads
  obtain ⟨ahead, failed⟩ := reads.left_of_lacking inside sound lacks
  exact ⟨position_of_pending rfl parts ahead, failed⟩

/-- If a line of the stretch lacks its colon, then the first such line cuts the stretch in two. -/
theorem exists_first_lacking (mistaken : ¬ ∀ line ∈ front, ¬ LacksColon line.text) :
    ∃ before bad behind, front = before ++ bad :: behind ∧ (∀ line ∈ before, ¬ LacksColon line.text) ∧
      LacksColon bad.text := by
  cases found : front.find? (fun line => LacksColon line.text) with
  | none => exact absurd (by simpa using List.find?_eq_none.1 found) mistaken
  | some bad =>
    obtain ⟨lacks, before, behind, parts, sound⟩ := List.find?_eq_some_iff_append.1 found
    exact ⟨before, bad, behind, parts, by simpa using sound, by simpa using lacks⟩

/-- A reader that fails is on the first line that lacks its colon, and the block would not have ended before. -/
theorem takeBlock_of_not_sound (parts : reader.pending = front ++ back)
    (inside : ∀ line ∈ front, ¬ Outside reader.tab.toList level line.text)
    (mistaken : ¬ ∀ line ∈ front, ¬ LacksColon line.text) :
    ∃ bad, (reader.takeBlock level).1 = .error bad ∧
      IsLeast reader.lacking (reader.takeBlock level).2.position ∧
      (reader.takeBlock level).2.position < reader.position + front.length ∧
      reader.lines[(reader.takeBlock level).2.position]? = some bad := by
  obtain ⟨before, bad, behind, rfl, sound, lacks⟩ := exists_first_lacking mistaken
  rw [List.append_assoc, List.cons_append] at parts
  obtain ⟨place, failed⟩ := takeBlock_of_lacking parts
    (fun line member => inside line (List.mem_append_left _ member)) sound lacks
  refine ⟨bad, failed, ?_⟩
  rw [place]
  refine ⟨isLeast_lacking parts sound lacks, ?_, getElem?_back parts⟩
  rw [List.length_append, List.length_cons]
  omega

theorem exists_takeBlock_eq_ok_iff (parts : reader.pending = front ++ back)
    (inside : ∀ line ∈ front, ¬ Outside reader.tab.toList level line.text)
    (stops : Stops reader.tab.toList level back) :
    (∃ tree, (reader.takeBlock level).1 = .ok tree) ↔ ∀ line ∈ front, ¬ LacksColon line.text := by
  constructor
  · rintro ⟨tree, read⟩
    by_contra mistaken
    obtain ⟨bad, failed, -⟩ := takeBlock_of_not_sound parts inside mistaken
    exact nomatch read.symm.trans failed
  · exact fun sound => (takeBlock_of_sound parts inside stops sound).2

theorem takeBlock_of_same_texts {other : Reader} {others rest : List Line} {tree : Tree}
    (read : (reader.takeBlock level).1 = .ok tree) (parts : reader.pending = front ++ back)
    (inside : ∀ line ∈ front, ¬ Outside reader.tab.toList level line.text)
    (stops : Stops reader.tab.toList level back) (sameTab : other.tab = reader.tab)
    (otherParts : other.pending = others ++ rest) (otherStops : Stops reader.tab.toList level rest)
    (same : others.map Line.text = front.map Line.text) : (other.takeBlock level).1 = .ok tree := by
  have sound := (exists_takeBlock_eq_ok_iff parts inside stops).1 ⟨tree, read⟩
  have reads := reader.reads_takeBlock level
  obtain ⟨ahead, -⟩ := (parts ▸ reads).left_of_sound inside stops sound
  rw [read, ahead] at reads
  obtain ⟨taken, cut, again⟩ := reads.exists_stretch rfl
  obtain rfl : front = taken := List.append_cancel_right (parts.symm.trans cut)
  have otherReads := again others rest same otherStops
  rw [← otherParts, ← sameTab] at otherReads
  exact congrArg Prod.fst otherReads.eq_readBlock

/-- A reader that is asked for a block comes to an end of it by finitely many rules. It goes up to the next entry outside
of the block, or to the end of the sheet; it fails exactly if a line before that lacks its colon, and then it stays on
the first such line. Which tree it has read depends on the texts of the lines up to there alone. -/
theorem takeBlock_stretch (reader : Reader) (level : Nat) :
    Reads reader.tab.toList level [] reader.pending (reader.takeBlock level).1
      (reader.takeBlock level).2.pending ∧
    (reader.takeBlock level).2.lines = reader.lines ∧ (reader.takeBlock level).2.tab = reader.tab ∧
    ∃ place, IsLeast (reader.ends level) place ∧
      ((∃ tree, (reader.takeBlock level).1 = .ok tree) ↔
        ∀ line ∈ reader.lines.extract reader.position place, ¬ LacksColon line.text) ∧
      (∀ tree, (reader.takeBlock level).1 = .ok tree → (reader.takeBlock level).2.position = place) ∧
      (∀ bad, (reader.takeBlock level).1 = .error bad →
        IsLeast reader.lacking (reader.takeBlock level).2.position ∧
        (reader.takeBlock level).2.position < place ∧
        reader.lines[(reader.takeBlock level).2.position]? = some bad) ∧
      ∀ (other : Reader) (otherPlace : Nat), other.tab = reader.tab → IsLeast (other.ends level) otherPlace →
        (other.lines.extract other.position otherPlace).map Line.text =
          (reader.lines.extract reader.position place).map Line.text →
        ∀ tree, (reader.takeBlock level).1 = .ok tree → (other.takeBlock level).1 = .ok tree := by
  obtain ⟨front, back, parts, inside, stops⟩ := reader.exists_cut level
  have succeeds := exists_takeBlock_eq_ok_iff parts inside stops
  refine ⟨reader.reads_takeBlock level, rfl, rfl, _, isLeast_ends parts inside stops, ?_⟩
  rw [extract_front parts]
  refine ⟨succeeds, ?_, ?_, ?_⟩
  · intro tree read
    exact (takeBlock_of_sound parts inside stops (succeeds.1 ⟨tree, read⟩)).1
  · intro bad failed
    have mistaken : ¬ ∀ line ∈ front, ¬ LacksColon line.text := by
      intro sound
      obtain ⟨tree, read⟩ := succeeds.2 sound
      exact nomatch read.symm.trans failed
    obtain ⟨first, stopped, stays⟩ := takeBlock_of_not_sound parts inside mistaken
    cases failed.symm.trans stopped
    exact stays
  · intro other otherPlace sameTab least same tree read
    obtain ⟨others, rest, otherParts, otherInside, otherStops⟩ := other.exists_cut level
    rw [least.unique (isLeast_ends otherParts otherInside otherStops), extract_front otherParts] at same
    exact takeBlock_of_same_texts read parts inside stops sameTab otherParts (sameTab ▸ otherStops) same

/-- A block inside of a group that is over: the first text goes on with an entry outside of it, and the second one has
a line that lacks its colon before. -/
theorem takeBlock_stretch_inner :
    ((Reader.ofText "\tb:\n\t\tc: 1\n# x\nd: 2\ne").takeBlock 1).1 = .ok [("b", .group [("c", .scalar "1")])] ∧
      IsLeast ((Reader.ofText "\tb:\n\t\tc: 1\n# x\nd: 2\ne").ends 1) 3 ∧
      ((Reader.ofText "\tb:\n\t\te\n# x\nd: 2").takeBlock 1).1 = .error ⟨2, "\t\te".toList⟩ ∧
      IsLeast (Reader.ofText "\tb:\n\t\te\n# x\nd: 2").lacking 1 := by
  have read : ((Reader.ofText "\tb:\n\t\tc: 1\n# x\nd: 2\ne").takeBlock 1).1 =
      .ok [("b", .group [("c", .scalar "1")])] := by decide +kernel
  have failed : ((Reader.ofText "\tb:\n\t\te\n# x\nd: 2").takeBlock 1).1 = .error ⟨2, "\t\te".toList⟩ := by decide +kernel
  obtain ⟨-, -, -, place, least, -, reached, -⟩ :=
    takeBlock_stretch (Reader.ofText "\tb:\n\t\tc: 1\n# x\nd: 2\ne") 1
  obtain ⟨-, -, -, _, -, -, -, stays, -⟩ := takeBlock_stretch (Reader.ofText "\tb:\n\t\te\n# x\nd: 2") 1
  have third : place = 3 := (reached _ read).symm.trans (by decide +kernel)
  have second : ((Reader.ofText "\tb:\n\t\te\n# x\nd: 2").takeBlock 1).2.position = 1 := by decide +kernel
  exact ⟨read, third ▸ least, failed, second ▸ (stays _ failed).1⟩

end Reader

end Varsheet.Document
