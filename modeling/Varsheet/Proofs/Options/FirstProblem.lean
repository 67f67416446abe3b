import Varsheet.Proofs.Options.Strictness

/-!
# The first problem is the one that is reported

The loader goes through the members of an object from left to right. Members that set fields leave no trace but the
fields that they have named, so that the next member decides alone: if its field has been named before, or its value is
of another kind than the field takes, then the text is refused for that reason, whatever comes behind it.

A number is read before its kind is known to be wrong. One that is too large for any binary number is no value at all,
and the text is refused as if it were no JSON.

* `SpellsStart`, `Starts` : an object up to the comma behind some of its members
* `Json.seen?`, `Json.problem` : what the loader sees at the place of a value, and what is wrong with it
* `Patch.takeMembers_of_spellsStart` : members that set fields are passed
* `Options.ofJson_of_refused`, `Options.ofJson_of_repeated` : the two kinds of problems with a field
* `Options.ofJson_reports_first` : what is reported, whatever follows
-/

namespace Varsheet

open Json

/-! ## The start of an object -/

/-- Members as the loader reads them, each with a comma behind it. -/
def SpellsStart : List (String × Json) → List Char → Prop
  | [], text => text = []
  | (name, value) :: rest, text =>
    ∃ first behind, text = first ++ ',' :: behind ∧
      SpellsMember .refused name (Spells (lenience name) value) first ∧ SpellsStart rest behind

/-- The text is the start of an object: an opening brace and some members, each with a comma behind it. No field is
named twice by them, and every value suits its field. -/
def Starts (members : List (String × Json)) (text : List Char) : Prop :=
  ∃ blank body patch, text = blank ++ '\x7b' :: body ∧ Blank blank ∧ SpellsStart members body ∧
    (Json.object members).Sets patch

/-! ## What is wrong with a value -/

/-- What the loader sees at the place of a value, if it can read it. -/
def Json.seen? : Json → Option Found
  | .null => some .null
  | .bool truth => some (.boolean truth)
  | .number numeral => Found.ofNumeral? numeral
  | .string text => some (.text text)
  | .array _ => some .sequence
  | .object _ => some .map

/-- What is wrong with a value that a field does not take. -/
def Json.problem (value : Json) (field : Field) : Problem :=
  match value.seen? with
  | some found => .wrongType found field.expects
  | none => .malformed

/-- A value that is written without brackets. -/
def Json.Plain : Json → Prop
  | .array _ | .object _ => False
  | _ => True

/-- What may come behind a plain value so that it ends there. -/
def Delimits (text : List Char) : Prop :=
  ∃ c behind, text = c :: behind ∧ (c = ',' ∨ c = '\x7d' ∨ isSpace c = true)

theorem Delimits.ends {text : List Char} (delimits : Delimits text) : Ends text := by
  obtain ⟨c, behind, rfl, rfl | rfl | space⟩ := delimits
  · rintro _ ⟨⟩; decide
  · rintro _ ⟨⟩; decide
  · rintro _ ⟨⟩
    obtain rfl | rfl | rfl | rfl := eq_of_isSpace space <;> decide

section

variable {value : Json} {field : Field} {blank body rest : List Char}

/-- A plain value is seen as it is, and what follows it is left. -/
theorem take?_of_spells (plain : value.Plain) (isBlank : Blank blank) (ends : Ends rest)
    (spelled : Spells .refused value body) :
    Found.take? (blank ++ (body ++ rest)) = value.seen?.map (·, rest) := by
  have start := skipBlank_spells isBlank spelled rest
  match value, plain with
  | .null, _ | .bool true, _ | .bool false, _ =>
    obtain rfl := spelled
    rw [Found.take?, start]
    rfl
  | .number numeral, _ =>
    have taken := takePlain?_number spelled ends
    obtain ⟨c, others, rfl, first⟩ := SpellsNumeral.head spelled
    rw [Found.take?, start]
    -- a number starts with a digit or a minus sign, so that it is none of the other cases
    split
    iterate 3
      · rename_i same
        obtain ⟨rfl, -⟩ := List.cons.inj same
        exact absurd first (by decide)
    · rw [taken]
      rfl
  | .string text, _ =>
    obtain ⟨inside, rfl, chars⟩ := spelled
    have taken := chars.takeChars? rest
    rw [Found.take?, start]
    simp [taken, Json.seen?]

/-- Of an array or an object, the bracket is seen. -/
theorem take?_of_bracket (isBlank : Blank blank) (rest : List Char) :
    Found.take? (blank ++ '[' :: rest) = some (.sequence, rest) ∧
      Found.take? (blank ++ '\x7b' :: rest) = some (.map, rest) := by
  simp only [Found.take?, skipBlank_blank_append isBlank (show isSpace '[' = false from rfl),
    skipBlank_blank_append isBlank (show isSpace '\x7b' = false from rfl), and_self]

theorem set?_seen? {patch : Patch} {found : Found} (refused : ¬ field.Accepts value)
    (seen : value.seen? = some found) : patch.set? field found = none := by
  cases value with
  | null => exact absurd trivial refused
  | bool truth =>
    cases seen
    cases field <;> simp_all [Field.Accepts, Patch.set?]
  | string text =>
    cases seen
    cases field <;> simp_all [Field.Accepts, Patch.set?]
  | number numeral =>
    obtain ⟨_, rfl⟩ | ⟨_, rfl⟩ := Patch.kind_of_ofNumeral? seen <;> cases field <;> rfl
  | array _ | object _ =>
    cases seen
    cases field <;> rfl

end

namespace Patch

/-! ## Passing members -/

section

variable {progress changed done : Progress} {name : String} {value : Json}

theorem Progress.mem_given_add? (added : progress.add? name value = some changed) (field : Field) :
    field ∈ changed.given ↔ field ∈ progress.given ∨ field.name = name := by
  unfold Progress.add? at added
  split at added
  · rename_i unknown
    cases added
    simp [(Field.ofName?_eq_none_iff.1 unknown field).symm]
  · rename_i other known
    obtain rfl := Field.ofName?_eq_some_iff.1 known
    split at added
    · cases added
    · obtain ⟨patch, -, rfl⟩ := Option.map_eq_some_iff.1 added
      have names : field.name = other.name ↔ field = other := ⟨Field.name_injective, congrArg _⟩
      rw [List.mem_cons, names, or_comm]

/-- The fields that have been named are those of the members. -/
theorem Progress.mem_given_addAll? (field : Field) : ∀ (members : List (String × Json)) {progress : Progress},
    progress.addAll? members = some done →
      (field ∈ done.given ↔ field ∈ progress.given ∨ field.name ∈ members.map Prod.fst)
  | [], progress, added => by
    cases added
    simp
  | (name, value) :: rest, progress, added => by
    obtain ⟨changed, addedHere, addedRest⟩ := Option.bind_eq_some_iff.1 added
    rw [mem_given_addAll? field rest addedRest, mem_given_add? addedHere, List.map_cons, List.mem_cons, or_assoc]

/-- Members that can be added are passed, and the loader goes on behind the last comma. -/
theorem takeMembers_of_spellsStart (rest : List Char) :
    ∀ (members : List (String × Json)) (body : List Char) (progress done : Progress), SpellsStart members body →
      progress.addAll? members = some done → takeMembers progress (body ++ rest) = takeMembers done rest
  | [], _, progress, done, empty, added => by
    obtain rfl := empty
    cases added
    rfl
  | (name, value) :: others, _, progress, done, ⟨first, behind, parts, spelled, spelledOthers⟩, added => by
    obtain ⟨changed, addedHere, addedOthers⟩ := Option.bind_eq_some_iff.1 added
    -- the comma behind the member is where its value ends and where the others start
    obtain ⟨inside, afterName, value, start, named, colon, spaced⟩ :=
      SpellsMember.label spelled (',' :: (behind ++ rest))
    obtain ⟨left, member, follows⟩ := takeMember_of_spaced colon spaced (.inl rfl) addedHere
    have further := takeMembers_of_spellsStart rest others behind changed done spelledOthers addedOthers
    rw [parts, List.append_assoc, List.cons_append, takeMembers_eq, start]
    simp only [named, String.ofList_toList, member, follows, further]

end

/-! ## The next member -/

section

variable {progress : Progress} {field : Field} {problem : Problem} {text rest : List Char}

/-- A name with white space around it is taken as a string. -/
theorem exists_takeChars?_of_spaced {halves : Halves} {name : String} {label : List Char}
    (spaced : Spaced (SpellsString halves name) label) (rest : List Char) :
    ∃ inside behind, Blank behind ∧ skipBlank (label ++ rest) = '"' :: inside ∧
      takeChars? halves inside = some (name.toList, behind ++ rest) := by
  obtain ⟨before, _, behind, rfl, isBefore, ⟨inside, rfl, chars⟩, isBehind⟩ := spaced
  refine ⟨inside ++ '"' :: (behind ++ rest), behind, isBehind, ?_, chars.takeChars? _⟩
  simp only [List.append_assoc, List.cons_append, List.nil_append]
  exact skipBlank_blank_append isBefore rfl _

theorem takeMember_of_repeated (given : field ∈ progress.given) (text : List Char) :
    takeMember progress field.name text = .error (.repeated field) := by
  simp only [takeMember, Field.ofName?_name, given, if_true]

/-- A value of another kind is a problem as soon as it has been seen. -/
theorem takeMember_of_refused {value : Json} {behind : List Char} (fresh : field ∉ progress.given)
    (colon : skipBlank text = ':' :: behind) (taken : Found.take? behind = value.seen?.map (·, rest))
    (refused : ¬ field.Accepts value) :
    takeMember progress field.name text = .error (value.problem field) := by
  simp only [takeMember, Field.ofName?_name, fresh, if_false, takeColon_eq_ok_iff.2 colon, takeField, taken,
    Json.problem]
  cases seen : value.seen? with
  | none => rfl
  | some found => simp only [Option.map_some, set?_seen? refused seen]

theorem takeMembers_of_label {name : String} {label : List Char}
    (spaced : Spaced (SpellsString .refused name) label)
    (failed : ∀ behind, Blank behind → takeMember progress name (behind ++ rest) = .error problem) :
    takeMembers progress (label ++ rest) = .error problem := by
  obtain ⟨inside, behind, isBehind, start, named⟩ := exists_takeChars?_of_spaced spaced rest
  rw [takeMembers_eq, start]
  simp only [named, String.ofList_toList, failed behind isBehind]

/-- Whether the start has members or not, a quote follows the brace, so that the object is not an empty one. -/
theorem takeObject_of_spellsStart {members : List (String × Json)} {name : String} {body label : List Char}
    (spelled : SpellsStart members body) (spaced : Spaced (SpellsString .refused name) label) :
    takeObject (body ++ (label ++ rest)) = takeMembers ⟨.empty, []⟩ (body ++ (label ++ rest)) := by
  have quote : ∃ inside, skipBlank (body ++ (label ++ rest)) = '"' :: inside := by
    cases members with
    | nil =>
      obtain rfl := spelled
      obtain ⟨inside, behind, -, start, -⟩ := exists_takeChars?_of_spaced spaced rest
      exact ⟨inside, start⟩
    | cons member others =>
      obtain ⟨first, behind, rfl, spelledFirst, -⟩ := spelled
      obtain ⟨inside, -, -, start, -⟩ := SpellsMember.label spelledFirst (',' :: (behind ++ (label ++ rest)))
      exact ⟨inside, by simpa using start⟩
  obtain ⟨inside, start⟩ := quote
  rw [takeObject, start]
  rfl

end

end Patch

/-! ## Whole texts -/

namespace Options

open Patch

section

variable {members : List (String × Json)} {front label : List Char} {field : Field}

/-- Behind the start of an object, the next name and what follows it decide. The fields that have been named are those
of the members in the start. -/
theorem ofJson_of_starts {problem : Problem} {rest : List Char} (starts : Starts members front)
    (spaced : Spaced (SpellsString .refused field.name) label)
    (failed : ∀ progress : Progress, (field ∈ progress.given ↔ field.name ∈ members.map Prod.fst) →
      ∀ behind, Blank behind → takeMember progress field.name (behind ++ rest) = .error problem) :
    Options.ofJson (String.ofList (front ++ (label ++ rest))) = .error (.invalidOptions problem.message) := by
  obtain ⟨before, body, patch, rfl, isBlank, spelled, sets⟩ := starts
  -- of the members in the start, only the fields that they name matter to the next one
  obtain ⟨done, added, -⟩ := addAll?_eq_some_iff_sets.2 sets
  have given : field ∈ done.given ↔ field.name ∈ members.map Prod.fst := by
    simpa using Progress.mem_given_addAll? field members added
  have stopped := takeMembers_of_label spaced (failed done given)
  have passed := takeMembers_of_spellsStart (label ++ rest) members body _ done spelled added
  have opened : takeObject (body ++ (label ++ rest)) = .error problem := by
    rw [takeObject_of_spellsStart spelled spaced, passed, stopped]
  have brace : skipBlank (before ++ '\x7b' :: (body ++ (label ++ rest))) = '\x7b' :: (body ++ (label ++ rest)) :=
    skipBlank_blank_append isBlank rfl _
  have whole : Patch.ofJson (String.ofList (before ++ '\x7b' :: body ++ (label ++ rest))) = .error problem := by
    rw [Patch.ofJson_eq, String.toList_ofList, List.append_assoc, List.cons_append, takeWhole, Found.take?, brace]
    simp only [opened]
    rfl
  rw [Options.ofJson, whole]

/-- A value that the field does not take, as soon as the loader has seen what it is. -/
theorem ofJson_of_refused (value : Json) {text rest : List Char} (starts : Starts members front)
    (fresh : field.name ∉ members.map Prod.fst) (spaced : Spaced (SpellsString .refused field.name) label)
    (taken : Found.take? text = value.seen?.map (·, rest)) (refused : ¬ field.Accepts value) :
    Options.ofJson (String.ofList (front ++ (label ++ ':' :: text))) =
      .error (.invalidOptions (value.problem field).message) := by
  apply ofJson_of_starts starts spaced
  intro progress given behind isBehind
  have notGiven : field ∉ progress.given := fun member => fresh (given.1 member)
  exact takeMember_of_refused notGiven (skipBlank_blank_append isBehind rfl _) taken refused

/-- A field that has been named before. -/
theorem ofJson_of_repeated (starts : Starts members front) (named : field.name ∈ members.map Prod.fst)
    (spaced : Spaced (SpellsString .refused field.name) label) (continuation : List Char) :
    Options.ofJson (String.ofList (front ++ (label ++ continuation))) =
      .error (.invalidOptions (Problem.repeated field).message) := by
  apply ofJson_of_starts starts spaced
  intro progress given behind isBehind
  exact takeMember_of_repeated (given.2 named) _

end

/-- Quotes around the name of a field make a label. -/
theorem spellsString_name (field : Field) :
    SpellsString .refused field.name ('"' :: (field.name.toList ++ ['"'])) := by
  apply SpellsString.of_plain
  cases field <;> decide

/-- Behind members that set fields, the next problem is reported whatever follows it: a value that its field does not
take, once it is known where the value ends; the bracket of an array or an object at the place of a field; and the name
of a field that has been given before. -/
theorem ofJson_reports_first {members : List (String × Json)} {front : List Char} (starts : Starts members front)
    (field : Field) {label : List Char} (spaced : Spaced (SpellsString .refused field.name) label) :
    (field.name ∉ members.map Prod.fst →
      (∀ (value : Json) (blank spelled continuation : List Char), value.Plain → ¬ field.Accepts value →
        Blank blank → Spells .refused value spelled → Delimits continuation →
          Options.ofJson (String.ofList (front ++ (label ++ ':' :: (blank ++ (spelled ++ continuation))))) =
            .error (.invalidOptions (value.problem field).message)) ∧
      ∀ blank continuation : List Char, Blank blank →
        Options.ofJson (String.ofList (front ++ (label ++ ':' :: (blank ++ '[' :: continuation)))) =
            .error (.invalidOptions (Problem.wrongType .sequence field.expects).message) ∧
          Options.ofJson (String.ofList (front ++ (label ++ ':' :: (blank ++ '\x7b' :: continuation)))) =
            .error (.invalidOptions (Problem.wrongType .map field.expects).message)) ∧
    (field.name ∈ members.map Prod.fst → ∀ continuation : List Char,
      Options.ofJson (String.ofList (front ++ (label ++ continuation))) =
        .error (.invalidOptions (Problem.repeated field).message)) := by
  refine ⟨fun fresh => ⟨?_, ?_⟩, fun named => ofJson_of_repeated starts named spaced⟩
  · intro value blank spelled continuation plain refused isBlank spells delimits
    exact ofJson_of_refused value starts fresh spaced (take?_of_spells plain isBlank delimits.ends spells) refused
  · intro blank continuation isBlank
    -- the elements and members are not looked at, so that an empty array or object stands for all of them
    obtain ⟨array, object⟩ := take?_of_bracket isBlank continuation
    exact ⟨ofJson_of_refused (.array []) starts fresh spaced array not_false,
      ofJson_of_refused (.object []) starts fresh spaced object not_false⟩

/-- Behind the same member, a boolean in the place of a text, a bracket and the same name again. -/
theorem ofJson_reports_first_behind :
    Starts [("target", .string "sass")] "\x7b\"target\":\"sass\",".toList ∧
      Options.ofJson "\x7b\"target\":\"sass\",\"tab\":true,]" =
        .error (.invalidOptions "invalid type: boolean `true`, expected a string") ∧
      Options.ofJson "\x7b\"target\":\"sass\",\"tab\":[?" =
        .error (.invalidOptions "invalid type: sequence, expected a string") ∧
      Options.ofJson "\x7b\"target\":\"sass\",\"target\"?" =
        .error (.invalidOptions "duplicate field `target`") := by
  have starts : Starts [("target", .string "sass")] "\x7b\"target\":\"sass\",".toList := by
    refine ⟨[], "\"target\":\"sass\",".toList, { Patch.empty with target := some .stylesheet }, rfl, blank_nil,
      ⟨"\"target\":\"sass\"".toList, [], rfl, ?_, rfl⟩, ?_, ?_, rfl⟩
    · exact ⟨"\"target\"".toList, "\"sass\"".toList, rfl, .bare (spellsString_name .target),
        .bare (.of_plain "sass" (by decide))⟩
    · intro field
      cases field <;> decide
    · intro field value member
      cases field <;> simp [Field.name] at member
      subst member
      decide
  have tab := (ofJson_reports_first starts .tab (.bare (spellsString_name .tab))).1 (by decide)
  have target := (ofJson_reports_first starts .target (.bare (spellsString_name .target))).2 (by decide)
  refine ⟨starts, ?_, ?_, ?_⟩
  · exact tab.1 (.bool true) [] "true".toList [',', ']'] trivial (by decide) blank_nil rfl ⟨',', _, rfl, .inl rfl⟩
  · exact (tab.2 [] ['?'] blank_nil).1
  · exact target ['?']

/-! ### Numbers that are too large -/

theorem message_wrongType_ne (found : Found) (expected : String) :
    (Problem.wrongType found expected).message ≠ Problem.malformed.message := by
  have typed : "invalid type: ".toList = 'i' :: "nvalid type: ".toList := rfl
  have other : "syntax error".toList = 's' :: "yntax error".toList := rfl
  change "invalid type: " ++ found.describe ++ ", expected " ++ expected ≠ "syntax error"
  intro same
  rw [← String.toList_inj, String.toList_append, String.toList_append, String.toList_append, typed, other] at same
  -- the two texts differ in their first character
  exact absurd (List.cons.inj same).1 (by decide)

/-- A number that is too large for any binary number is not reported as a value of the wrong kind. -/
theorem ofJson_of_tooLarge {numeral : Numeral} {spelled : List Char} (spells : SpellsNumeral numeral spelled)
    (tooLarge : Found.ofNumeral? numeral = none) (field : Field) :
    Options.ofJson (String.ofList
        (['\x7b'] ++ ('"' :: (field.name.toList ++ ['"']) ++ ':' :: (spelled ++ ['\x7d'])))) =
      .error (.invalidOptions Problem.malformed.message) := by
  have starts : Starts [] ['\x7b'] := by
    refine ⟨[], [], .empty, rfl, blank_nil, rfl, ?_, nofun, rfl⟩
    simp
  have ends : Ends ['\x7d'] := Delimits.ends ⟨'\x7d', [], rfl, .inr (.inl rfl)⟩
  have plain : (Json.number numeral).Plain := trivial
  have taken : Found.take? (spelled ++ ['\x7d']) = (Json.number numeral).seen?.map (·, ['\x7d']) :=
    take?_of_spells plain blank_nil ends spells
  have refused := ofJson_of_refused (.number numeral) starts List.not_mem_nil (.bare (spellsString_name field))
    taken not_false
  rwa [Json.problem, Json.seen?, tooLarge] at refused

/-- A one with four hundred zeros behind it. -/
def oversized : Numeral :=
  ⟨false, '1' :: List.replicate 400 '0', none, none⟩

theorem spellsNumeral_oversized : SpellsNumeral oversized oversized.whole := by
  refine ⟨[], [], [], by simp, rfl, ⟨⟨List.cons_ne_nil _ _, ?_⟩, nofun⟩, rfl, rfl⟩
  intro c member
  obtain rfl | member := List.mem_cons.1 member
  · rfl
  · rw [List.eq_of_mem_replicate member]
    rfl

/-- A whole number in the place of a text is reported as if it were no JSON, if it is too large. -/
theorem ofJson_oversized :
    oversized.fraction = none ∧ oversized.exponent = none ∧
      Spells .refused (.number oversized) oversized.whole ∧ ¬ Field.symbol.Accepts (.number oversized) ∧
      Options.ofJson (String.ofList (['\x7b'] ++ ('"' :: (Field.symbol.name.toList ++ ['"']) ++
          ':' :: (oversized.whole ++ ['\x7d'])))) = .error (.invalidOptions Problem.malformed.message) ∧
      ∀ (found : Found) (expected : String),
        (Problem.wrongType found expected).message ≠ Problem.malformed.message :=
  ⟨rfl, rfl, spellsNumeral_oversized, not_false,
    ofJson_of_tooLarge spellsNumeral_oversized (by decide +kernel) .symbol, message_wrongType_ne⟩

end Options

end Varsheet
