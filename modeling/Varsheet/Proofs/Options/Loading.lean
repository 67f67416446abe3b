import Varsheet.Proofs.Json.Halves
import Varsheet.Proofs.Json.Reading
import Varsheet.Proofs.Options.Settings

/-!
# Loading options

The loader takes exactly the texts of JSON values that set fields. It reads strictly, with one liberty: the
values of unknown names are passed over, and there a lone half of a surrogate pair does no harm.

* `Json.SpellsLoosely` : the texts of a value, with that liberty
* `Patch.takeObject_eq_ok_iff`, `Patch.takeArray_eq_ok_iff` : the two forms
* `Patch.ofJson_eq_ok_iff` : which texts are loaded, and what they set
-/

namespace Varsheet

open Json

/-- What becomes of lone halves in the value of a name. -/
def lenience (name : String) : Halves :=
  if Field.ofName? name = none then .replaced else .refused

/-- The text stands for the value as the loader reads it. -/
def Json.SpellsLoosely : Json → List Char → Prop
  | .object members, text =>
    ∃ body, text = '\x7b' :: (body ++ ['\x7d']) ∧ SpellsMembers .refused lenience members body
  | value, text => Spells .refused value text

theorem lenience_of_unknown {name : String} (unknown : Field.ofName? name = none) :
    lenience name = .replaced := by
  rw [lenience, if_pos unknown]

@[simp] theorem lenience_name (field : Field) : lenience field.name = .refused := by
  simp [lenience]

theorem spellsLoosely_of_spells {value : Json} {body : List Char} (spelled : Spells .refused value body) :
    value.SpellsLoosely body := by
  cases value with
  | object members =>
    obtain ⟨inside, parts, spelled⟩ := spelled
    exact ⟨inside, parts, SpellsMembers.mono (Halves.refused_within _) (fun _ => Halves.refused_within _)
      members inside spelled⟩
  | null | bool _ | number _ | string _ | array _ => exact spelled

theorem spells_replaced_of_spellsLoosely {value : Json} {body : List Char} (spelled : value.SpellsLoosely body) :
    Spells .replaced value body := by
  cases value with
  | object members =>
    obtain ⟨inside, parts, spelled⟩ := spelled
    exact ⟨inside, parts, SpellsMembers.mono (Halves.within_replaced _) (fun _ => Halves.within_replaced _)
      members inside spelled⟩
  | null | bool _ | number _ | string _ | array _ =>
    exact Spells.mono (Halves.refused_within .replaced) _ _ spelled

namespace Patch

/-! ## One value -/

section

variable {patch changed : Patch} {field : Field} {text rest : List Char}

theorem kind_of_takePlain? {value : Json} (taken : takePlain? text = some (value, rest)) :
    value = .null ∨ (∃ truth, value = .bool truth) ∨ ∃ numeral, value = .number numeral := by
  unfold takePlain? at taken
  split at taken
  · rename_i found
    cases taken
    unfold takeWord? at found
    split at found <;> cases found
    · exact .inl rfl
    · exact .inr (.inl ⟨true, rfl⟩)
    · exact .inr (.inl ⟨false, rfl⟩)
  · obtain ⟨_, -, same⟩ := Option.map_eq_some_iff.1 taken
    cases same
    exact .inr (.inr ⟨_, rfl⟩)

theorem kind_of_ofNumeral? {numeral : Numeral} {found : Found} (read : Found.ofNumeral? numeral = some found) :
    (∃ value, found = .integer value) ∨ ∃ shown, found = .real shown := by
  unfold Found.ofNumeral? at read
  split at read
  · cases read
    exact .inl ⟨_, rfl⟩
  · obtain ⟨_, -, rfl⟩ := Option.map_eq_some_iff.1 read
    exact .inr ⟨_, rfl⟩

/-- What the loader finds at the place of a value sets a field as the value does. -/
theorem take?_bind_set? (patch : Patch) (field : Field) (text : List Char) :
    ((Found.take? text).bind fun (found, rest) => (patch.set? field found).map (·, rest)) =
      (value? .refused text).bind fun (value, rest) => (patch.put? field value).map (·, rest) := by
  have noSequence : patch.set? field .sequence = none := by cases field <;> rfl
  have noMap : patch.set? field .map = none := by cases field <;> rfl
  have noInteger (value : Int) : patch.set? field (.integer value) = none := by cases field <;> rfl
  have noReal (shown : String) : patch.set? field (.real shown) = none := by cases field <;> rfl
  rw [Found.take?, value?_eq]
  generalize skipBlank text = start
  -- of an array or an object only the bracket is seen, which no field takes
  split
  · simp only [Option.bind_some, noSequence, Option.map_none]
    split <;> simp [put?, Json.found?, Option.bind_map, Function.comp_def]
  · simp only [Option.bind_some, noMap, Option.map_none]
    split <;> simp [put?, Json.found?, Option.bind_map, Function.comp_def]
  · simp [put?, Json.found?, Option.bind_map, Function.comp_def]
  · split
    · rename_i taken
      simp [taken, put?, Json.found?]
    · rename_i taken
      simp [taken, put?, Json.found?]
    · rename_i numeral rest taken
      simp only [taken, Option.bind_some, put?, Json.found?, Option.bind_none, Option.map_none]
      cases read : Found.ofNumeral? numeral with
      | none => rfl
      | some found => obtain ⟨_, rfl⟩ | ⟨_, rfl⟩ := kind_of_ofNumeral? read <;> simp [noInteger, noReal]
    · -- without quotes there is nothing but words and numbers
      rename_i notNull notBool notNumber
      cases taken : takePlain? start with
      | none => simp [taken]
      | some pair =>
        obtain ⟨value, rest⟩ := pair
        obtain rfl | ⟨truth, rfl⟩ | ⟨numeral, rfl⟩ := kind_of_takePlain? taken
        · exact absurd taken (notNull rest)
        · exact absurd taken (notBool truth rest)
        · exact absurd taken (notNumber numeral rest)

theorem takeField_eq_ok_iff :
    patch.takeField field text = .ok (changed, rest) ↔
      ∃ value, value? .refused text = some (value, rest) ∧ patch.put? field value = some changed := by
  have loaded : patch.takeField field text = .ok (changed, rest) ↔
      ((Found.take? text).bind fun (found, rest) => (patch.set? field found).map (·, rest)) =
        some (changed, rest) := by
    unfold takeField
    split
    · rename_i absent
      simp [absent]
    · rename_i found behind taken
      cases set : patch.set? field found <;> simp [taken, set]
  rw [loaded, take?_bind_set?]
  constructor
  · intro found
    obtain ⟨⟨value, behind⟩, taken, set⟩ := Option.bind_eq_some_iff.1 found
    obtain ⟨_, put, same⟩ := Option.map_eq_some_iff.1 set
    cases same
    exact ⟨value, taken, put⟩
  · rintro ⟨value, taken, put⟩
    simp [taken, put]

theorem skipValue_eq_ok_iff :
    skipValue text = .ok rest ↔ ∃ value, value? .replaced text = some (value, rest) := by
  rw [skipValue, value?]
  cases takeValue? .replaced text with
  | none => simp
  | some taken => simp [Taken.pair]

theorem takeColon_eq_ok_iff : takeColon text = .ok rest ↔ skipBlank text = ':' :: rest := by
  unfold takeColon
  split
  · rename_i start
    simp [start]
  · rename_i other
    constructor
    · intro taken
      cases taken
    · intro start
      exact absurd start (other rest)

end

/-! ## Objects -/

section

variable {progress changed : Progress} {patch : Patch} {name : String} {text rest : List Char}

theorem takeMember_of_unknown (unknown : Field.ofName? name = none) :
    takeMember progress name text = .ok (changed, rest) ↔
      ∃ behind, takeColon text = .ok behind ∧ skipValue behind = .ok rest ∧ changed = progress := by
  simp only [takeMember, unknown]
  cases takeColon text with
  | error problem => simp
  | ok behind => cases skipped : skipValue behind <;> simp [skipped, and_comm, eq_comm]

theorem takeMember_name (field : Field) :
    takeMember progress field.name text = .ok (changed, rest) ↔
      field ∉ progress.given ∧ ∃ behind patch, takeColon text = .ok behind ∧
        progress.patch.takeField field behind = .ok (patch, rest) ∧
        changed = ⟨patch, field :: progress.given⟩ := by
  simp only [takeMember, Field.ofName?_name]
  by_cases given : field ∈ progress.given
  · simp [given]
  · cases takeColon text with
    | error problem => simp [given]
    | ok behind =>
      cases loaded : progress.patch.takeField field behind with
      | error problem => simp [given, loaded]
      | ok pair =>
        obtain ⟨patch, left⟩ := pair
        simp [given, loaded, and_comm, and_assoc, eq_comm]

/-- A member is loaded exactly if it is read and what it gives can be added. -/
theorem takeMember_eq_ok_iff :
    takeMember progress name text = .ok (changed, rest) ↔
      ∃ behind value, skipBlank text = ':' :: behind ∧
        value? (lenience name) behind = some (value, rest) ∧ progress.add? name value = some changed := by
  simp only [← takeColon_eq_ok_iff, Progress.add?]
  cases known : Field.ofName? name with
  | none =>
    simp only [takeMember_of_unknown known, skipValue_eq_ok_iff, lenience_of_unknown known]
    simp [eq_comm]
  | some field =>
    obtain rfl := Field.ofName?_eq_some_iff.1 known
    simp only [takeMember_name, takeField_eq_ok_iff, lenience_name]
    by_cases given : field ∈ progress.given
    · simp [given]
    · simp only [given, not_false_eq_true, true_and, if_false, Option.map_eq_some_iff]
      constructor
      · rintro ⟨behind, patch, colon, ⟨value, taken, put⟩, rfl⟩
        exact ⟨behind, value, colon, taken, patch, put, rfl⟩
      · rintro ⟨behind, value, colon, taken, patch, put, rfl⟩
        exact ⟨behind, patch, colon, ⟨value, taken, put⟩, rfl⟩

theorem takeMembers_eq (progress : Progress) (text : List Char) :
    takeMembers progress text =
      match skipBlank text with
      | '"' :: body =>
        match takeChars? .refused body with
        | none => .error .malformed
        | some (chars, afterName) =>
          match takeMember progress (String.ofList chars) afterName with
          | .error problem => .error problem
          | .ok (changed, behind) =>
            match skipBlank behind with
            | ',' :: next => takeMembers changed next
            | '\x7d' :: rest => .ok (changed.patch, rest)
            | _ => .error .malformed
      | _ => .error .malformed := by
  rw [takeMembers]
  split
  · rename_i body start
    simp only [start]
    split
    · rename_i absent
      simp only [absent]
    · rename_i named
      simp only [named]
      split
      · rename_i failed
        simp only [failed]
      · rename_i member
        simp only [member]
        split
        · rename_i follows
          simp only [follows]
        · rename_i follows
          simp only [follows]
        · simp_all
  · simp_all

/-- What is loaded up to the closing brace is spelled by members that can be added one after another. -/
theorem spells_of_takeMembers {progress : Progress} {text : List Char}
    (loaded : takeMembers progress text = .ok (patch, rest)) :
    ∃ members body, members ≠ [] ∧ text = body ++ '\x7d' :: rest ∧
      SpellsMembers .refused lenience members body ∧
      ∃ done, progress.addAll? members = some done ∧ done.patch = patch := by
  -- by the length of the text: each further member starts behind the comma that ends the last one
  rw [takeMembers_eq] at loaded
  split at loaded
  · rename_i body start
    split at loaded
    · cases loaded
    · rename_i chars afterName named
      split at loaded
      · cases loaded
      · rename_i changed behind member
        obtain ⟨afterColon, value, colon, taken, added⟩ := takeMember_eq_ok_iff.1 member
        obtain ⟨label, parts, spacedLabel⟩ := spaced_string_of_takeChars? start named colon
        obtain ⟨blank, body', parts', isBlank, spelled⟩ := spells_of_value? taken
        split at loaded
        · rename_i next follows
          have shorter : next.length < text.length :=
            Nat.lt_trans (Nat.lt_trans (length_lt_of_skipBlank follows) (length_takeMember member))
              (Nat.lt_trans (length_takeChars? named) (length_lt_of_skipBlank start))
          obtain ⟨others, inside, further, rfl, spelledOthers, done, addedOthers, result⟩ :=
            spells_of_takeMembers loaded
          obtain ⟨front, rfl, spaced⟩ := spaced_append parts' isBlank spelled follows
          refine ⟨(String.ofList chars, value) :: others, label ++ ':' :: front ++ ',' :: inside,
            List.cons_ne_nil _ _, by simp [parts], ?_, done, ?_, result⟩
          · exact spellsMembers_cons further ⟨label, front, rfl, spacedLabel, spaced⟩ spelledOthers
          · simp [Progress.addAll?, added, addedOthers]
        · rename_i follows
          cases loaded
          obtain ⟨front, rfl, spaced⟩ := spaced_append parts' isBlank spelled follows
          refine ⟨[(String.ofList chars, value)], label ++ ':' :: front, List.cons_ne_nil _ _, by simp [parts],
            ⟨label, front, rfl, spacedLabel, spaced⟩, changed, ?_, rfl⟩
          simp [Progress.addAll?, added]
        · cases loaded
  · cases loaded
termination_by text.length

theorem takeMember_of_spaced {value : Json} {behind rest : List Char} {c : Char}
    (colon : skipBlank text = ':' :: (behind ++ c :: rest)) (spaced : Spaced (Spells (lenience name) value) behind)
    (stops : Stops c) (added : progress.add? name value = some changed) :
    ∃ left, takeMember progress name text = .ok (changed, left) ∧ skipBlank left = c :: rest := by
  obtain ⟨left, taken, follows⟩ := (taken_value (lenience name) value).spaced spaced stops rest
  exact ⟨left, takeMember_eq_ok_iff.2 ⟨_, value, colon, taken, added⟩, follows⟩

theorem takeMembers_of_spells (rest : List Char) : ∀ (members : List (String × Json)) (body : List Char)
    (progress done : Progress), members ≠ [] → SpellsMembers .refused lenience members body →
      progress.addAll? members = some done → takeMembers progress (body ++ '\x7d' :: rest) = .ok (done.patch, rest)
  | [], _, _, _, filled, _, _ => absurd rfl filled
  | [(name, value)], body, progress, done, _, spelled, added => by
    obtain ⟨changed, addedHere, last⟩ := Option.bind_eq_some_iff.1 added
    cases last
    obtain ⟨inside, afterName, behind, start, named, colon, spaced⟩ :=
      SpellsMember.label spelled ('\x7d' :: rest)
    obtain ⟨left, member, follows⟩ := takeMember_of_spaced colon spaced (.inr (.inr rfl)) addedHere
    rw [takeMembers_eq, start]
    simp only [named, String.ofList_toList, member, follows]
  | (name, value) :: next :: others, _, progress, done, _, ⟨first, behind, parts, spelled, spelledOthers⟩, added => by
    obtain ⟨changed, addedHere, addedOthers⟩ := Option.bind_eq_some_iff.1 added
    obtain ⟨inside, afterName, value, start, named, colon, spaced⟩ :=
      SpellsMember.label spelled (',' :: (behind ++ '\x7d' :: rest))
    obtain ⟨left, member, follows⟩ := takeMember_of_spaced colon spaced (.inl rfl) addedHere
    have further := takeMembers_of_spells rest (next :: others) behind changed done (List.cons_ne_nil _ _)
      spelledOthers addedOthers
    rw [parts, List.append_assoc, List.cons_append, takeMembers_eq, start]
    simp only [named, String.ofList_toList, member, follows, further]

theorem takeObject_eq_ok_iff :
    takeObject text = .ok (patch, rest) ↔
      ∃ members body, text = body ++ '\x7d' :: rest ∧ SpellsMembers .refused lenience members body ∧
        (Json.object members).Sets patch := by
  simp only [← addAll?_eq_some_iff_sets]
  constructor
  · intro loaded
    unfold takeObject at loaded
    split at loaded
    · rename_i finish
      cases loaded
      obtain ⟨blank, isBlank, parts⟩ := exists_blank_append_skipBlank text
      rw [finish] at parts
      exact ⟨[], blank, parts, isBlank, _, rfl, rfl⟩
    · obtain ⟨members, body, -, parts, spelled, added⟩ := spells_of_takeMembers loaded
      exact ⟨members, body, parts, spelled, added⟩
  · rintro ⟨members, body, rfl, spelled, done, added, rfl⟩
    cases members with
    | nil =>
      cases added
      rw [takeObject, skipBlank_blank_append spelled rfl]
      rfl
    | cons member others =>
      obtain ⟨_, start⟩ := head_spellsMembers (List.cons_ne_nil _ _) spelled ('\x7d' :: rest)
      rw [takeObject, start]
      exact takeMembers_of_spells rest _ body _ done (List.cons_ne_nil _ _) spelled added

end

/-! ## Arrays -/

section

variable {patch changed : Patch} {text rest : List Char}

/-- Loads elements into fields, up to the closing bracket. There has to be an element. -/
def takeFilled (patch : Patch) : List Field → List Char → Except Problem (Patch × List Char)
  | [], _ => .error .malformed
  | field :: others, text =>
    match patch.takeField field text with
    | .error problem => .error problem
    | .ok (set, behind) => takeElements set others behind

theorem takeElements_eq (patch : Patch) (fields : List Field) (text : List Char) :
    takeElements patch fields text =
      match skipBlank text with
      | ']' :: rest => .ok (patch, rest)
      | ',' :: next => takeFilled patch fields next
      | _ => .error .malformed := by
  rw [takeElements.eq_def]
  split
  · rename_i finish
    simp only [finish]
  · rename_i follows
    simp only [follows]
    rfl
  · rename_i fields _ _ notClosed notFurther
    split
    · rename_i finish
      exact absurd finish (notClosed _)
    · rename_i next follows
      cases fields with
      | nil => rfl
      | cons field others => exact absurd rfl (notFurther next field others follows)
    · rfl

theorem takeArray_eq (text : List Char) :
    takeArray text =
      match skipBlank text with
      | ']' :: rest => .ok (.empty, rest)
      | _ => takeFilled .empty Field.all text := by
  unfold takeArray
  split
  · rename_i finish
    simp only [finish]
  · rename_i all notClosed
    have start : (match skipBlank text with
        | ']' :: rest => .ok (.empty, rest)
        | _ => takeFilled .empty Field.all text) = takeFilled .empty Field.all text := by
      split
      · rename_i finish
        exact absurd finish (notClosed _)
      · rfl
    rw [start, all]
    rfl
  · rename_i none _
    cases none

/-- Elements are loaded into fields exactly if they are read and suit the fields. -/
theorem takeFilled_eq_ok_iff {fields : List Field} :
    takeFilled patch fields text = .ok (changed, rest) ↔
      ∃ elements, elements? .refused text = some (elements, rest) ∧
        patch.fill? fields elements = some changed := by
  induction fields generalizing patch text with
  | nil =>
    -- the reader of elements gives at least one, for which no field is left
    refine ⟨nofun, ?_⟩
    rintro ⟨elements, read, filled⟩
    obtain ⟨element, others, rfl⟩ := List.exists_cons_of_ne_nil (spells_of_elements? read).1
    cases filled
  | cons field fields ih =>
    constructor
    · intro loaded
      rw [takeFilled] at loaded
      split at loaded
      · cases loaded
      · rename_i set behind loadedField
        obtain ⟨value, taken, put⟩ := takeField_eq_ok_iff.1 loadedField
        rw [takeElements_eq] at loaded
        split at loaded
        · rename_i finish
          cases loaded
          refine ⟨[value], ?_, by simp [fill?, put]⟩
          rw [elements?_eq, taken]
          simp [finish]
        · rename_i next follows
          obtain ⟨elements, read, filled⟩ := ih.1 loaded
          refine ⟨value :: elements, ?_, by simp [fill?, put, filled]⟩
          rw [elements?_eq, taken]
          simp [follows, read]
        · cases loaded
    · rintro ⟨elements, read, filled⟩
      rw [elements?_eq] at read
      split at read
      · cases read
      · rename_i value behind taken
        split at read
        · rename_i next follows
          obtain ⟨⟨others, left⟩, readOthers, same⟩ := Option.map_eq_some_iff.1 read
          cases same
          obtain ⟨set, put, filledOthers⟩ := Option.bind_eq_some_iff.1 filled
          rw [takeFilled, takeField_eq_ok_iff.2 ⟨value, taken, put⟩]
          simp only [takeElements_eq, follows]
          exact ih.2 ⟨others, readOthers, filledOthers⟩
        · rename_i finish
          cases read
          obtain ⟨set, put, last⟩ := Option.bind_eq_some_iff.1 filled
          rw [takeFilled, takeField_eq_ok_iff.2 ⟨value, taken, put⟩]
          simpa [takeElements_eq, finish, fill?] using last
        · cases read

theorem takeArray_eq_ok_iff :
    takeArray text = .ok (patch, rest) ↔
      ∃ elements body, text = body ++ ']' :: rest ∧ SpellsElements .refused elements body ∧
        (Json.array elements).Sets patch := by
  simp only [← fill?_eq_some_iff_sets]
  constructor
  · intro loaded
    rw [takeArray_eq] at loaded
    split at loaded
    · rename_i finish
      cases loaded
      obtain ⟨blank, isBlank, parts⟩ := exists_blank_append_skipBlank text
      rw [finish] at parts
      exact ⟨[], blank, parts, isBlank, by simp [fill?]⟩
    · obtain ⟨elements, read, filled⟩ := takeFilled_eq_ok_iff.1 loaded
      obtain ⟨-, body, parts, spelled⟩ := spells_of_elements? read
      exact ⟨elements, body, parts, spelled, filled⟩
  · rintro ⟨elements, body, rfl, spelled, filled⟩
    cases elements with
    | nil =>
      rw [takeArray_eq, skipBlank_blank_append spelled rfl]
      simpa [fill?] using filled
    | cons element others =>
      obtain ⟨c, _, start, opens⟩ := head_spellsElements (List.cons_ne_nil _ _) spelled (']' :: rest)
      have read := taken_elements .refused _ body rest (List.cons_ne_nil _ _) spelled
      rw [takeArray_eq, start]
      -- what opens an element is no closing bracket
      split
      · rename_i same
        exact absurd (List.cons.inj same).1 opens.2.1
      · exact takeFilled_eq_ok_iff.2 ⟨_, read, filled⟩

end

/-! ## Whole texts -/

section

variable {text rest : List Char} {patch : Patch}

theorem bracket_of_take? {found : Found} (taken : Found.take? text = some (found, rest)) :
    (found = .map → skipBlank text = '\x7b' :: rest) ∧ (found = .sequence → skipBlank text = '[' :: rest) := by
  unfold Found.take? at taken
  split at taken
  · cases taken
    exact ⟨nofun, fun _ => ‹_›⟩
  · cases taken
    exact ⟨fun _ => ‹_›, nofun⟩
  · obtain ⟨_, -, same⟩ := Option.map_eq_some_iff.1 taken
    cases same
    exact ⟨nofun, nofun⟩
  · split at taken
    · cases taken
      exact ⟨nofun, nofun⟩
    · cases taken
      exact ⟨nofun, nofun⟩
    · obtain ⟨_, read, same⟩ := Option.map_eq_some_iff.1 taken
      cases same
      obtain ⟨_, rfl⟩ | ⟨_, rfl⟩ := kind_of_ofNumeral? read <;> exact ⟨nofun, nofun⟩
    · cases taken

/-- The fields that the value at the front of a text sets. -/
def takeWhole (text : List Char) : Except Problem (Patch × List Char) :=
  match Found.take? text with
  | some (.map, rest) => takeObject rest
  | some (.sequence, rest) => takeArray rest
  | some (found, _) => .error (.wrongType found "struct PartialOptions")
  | none => .error .malformed

theorem takeWhole_eq_ok_iff :
    takeWhole text = .ok (patch, rest) ↔
      ∃ (value : Json) (blank body : List Char), text = blank ++ (body ++ rest) ∧ Blank blank ∧
        value.SpellsLoosely body ∧ value.Sets patch := by
  constructor
  · intro loaded
    obtain ⟨blank, isBlank, parts⟩ := exists_blank_append_skipBlank text
    unfold takeWhole at loaded
    split at loaded
    · rename_i left taken
      obtain ⟨members, inside, rfl, spelled, sets⟩ := takeObject_eq_ok_iff.1 loaded
      rw [(bracket_of_take? taken).1 rfl] at parts
      exact ⟨.object members, blank, '\x7b' :: (inside ++ ['\x7d']), by simpa using parts, isBlank,
        ⟨inside, rfl, spelled⟩, sets⟩
    · rename_i left taken
      obtain ⟨elements, inside, rfl, spelled, sets⟩ := takeArray_eq_ok_iff.1 loaded
      rw [(bracket_of_take? taken).2 rfl] at parts
      exact ⟨.array elements, blank, '[' :: (inside ++ [']']), by simpa using parts, isBlank,
        ⟨inside, rfl, spelled⟩, sets⟩
    · cases loaded
    · cases loaded
  · rintro ⟨value, blank, body, rfl, isBlank, spelled, sets⟩
    cases value with
    | object members =>
      obtain ⟨inside, rfl, spelled⟩ := spelled
      have start : skipBlank (blank ++ ('\x7b' :: (inside ++ ['\x7d']) ++ rest)) =
          '\x7b' :: (inside ++ '\x7d' :: rest) := by
        rw [List.cons_append, skipBlank_blank_append isBlank rfl]
        simp
      simp only [takeWhole, Found.take?, start]
      exact takeObject_eq_ok_iff.2 ⟨members, inside, rfl, spelled, sets⟩
    | array elements =>
      obtain ⟨inside, rfl, spelled⟩ := spelled
      have start : skipBlank (blank ++ ('[' :: (inside ++ [']']) ++ rest)) = '[' :: (inside ++ ']' :: rest) := by
        rw [List.cons_append, skipBlank_blank_append isBlank rfl]
        simp
      simp only [takeWhole, Found.take?, start]
      exact takeArray_eq_ok_iff.2 ⟨elements, inside, rfl, spelled, sets⟩
    | null => cases sets
    | bool _ => cases sets
    | number _ => cases sets
    | string _ => cases sets

end

theorem ofJson_eq (text : String) :
    Patch.ofJson text = takeWhole text.toList >>= fun (patch, rest) =>
      if (skipBlank rest).isEmpty then .ok patch else .error .malformed := by
  unfold Patch.ofJson takeWhole
  cases Found.take? text.toList with
  | none => rfl
  | some pair =>
    obtain ⟨found, rest⟩ := pair
    cases found <;> rfl

theorem ofJson_eq_ok_iff_takeWhole {text : String} {patch : Patch} :
    Patch.ofJson text = .ok patch ↔ ∃ rest, takeWhole text.toList = .ok (patch, rest) ∧ Blank rest := by
  rw [ofJson_eq]
  cases takeWhole text.toList with
  | error problem => simp [bind, Except.bind]
  | ok pair =>
    obtain ⟨loaded, rest⟩ := pair
    by_cases isBlank : Blank rest
    · simp [bind, Except.bind, skipBlank_eq_nil_iff.2 isBlank, and_assoc, isBlank]
    · have unread : skipBlank rest ≠ [] := fun none => isBlank (skipBlank_eq_nil_iff.1 none)
      simp [bind, Except.bind, unread, and_assoc, isBlank]

/-- The loader takes a text exactly if it is a value that sets fields, and gives what they are set to. -/
theorem ofJson_eq_ok_iff {text : String} {patch : Patch} :
    Patch.ofJson text = .ok patch ↔
      ∃ value : Json, Spaced value.SpellsLoosely text.toList ∧ value.Sets patch := by
  rw [ofJson_eq_ok_iff_takeWhole]
  constructor
  · rintro ⟨rest, loaded, isBlank⟩
    obtain ⟨value, blank, body, parts, isBlank', spelled, sets⟩ := takeWhole_eq_ok_iff.1 loaded
    exact ⟨value, ⟨blank, body, rest, parts, isBlank', spelled, isBlank⟩, sets⟩
  · rintro ⟨value, ⟨before, body, behind, parts, isBefore, spelled, isBehind⟩, sets⟩
    exact ⟨behind, takeWhole_eq_ok_iff.2 ⟨value, before, body, parts, isBefore, spelled, sets⟩, isBehind⟩

end Patch

/-! ## Options -/

namespace Options

theorem ofJson_eq_ok_iff {text : String} {options : Options} :
    Options.ofJson text = .ok options ↔ ∃ patch, Patch.ofJson text = .ok patch ∧ options = .ofPatch patch := by
  unfold Options.ofJson
  cases Patch.ofJson text with
  | ok patch => simp [eq_comm]
  | error problem => simp

theorem exists_error_of_ne_ok {text : String} (refused : ∀ patch, Patch.ofJson text ≠ .ok patch) :
    ∃ message hint, Options.ofJson text = .error (.badOptions message ⟨some hint, some 310⟩) := by
  unfold Options.ofJson
  cases loaded : Patch.ofJson text with
  | ok patch => exact absurd loaded (refused patch)
  | error problem => exact ⟨_, _, rfl⟩

end Options

end Varsheet
