import Mathlib.Data.List.TakeWhile
import Varsheet.Json.Reader
import Varsheet.Proofs.Json.Lexemes

/-!
# Reading JSON is reading its grammar

The readers of values take exactly the texts of the grammar off the front of a text. Hence a text stands for one
value at most, and the value is the one that is read.

* `value?`, `elements?`, `members?` : the readers without their bounds, one equation each
* `spells_of_value?`, `taken_value` : what they take is spelled, and what is spelled they take
* `parse?_eq_some_iff` : a text is read as a value exactly if it is a text of the value
-/

namespace Varsheet.Json

/-! ## One step of the readers -/

def value? (halves : Halves) (text : List Char) : Option (Json × List Char) :=
  (takeValue? halves text).map Taken.pair

def elements? (halves : Halves) (text : List Char) : Option (List Json × List Char) :=
  (takeElements? halves text).map Taken.pair

def members? (halves : Halves) (text : List Char) : Option (List (String × Json) × List Char) :=
  (takeMembers? halves text).map Taken.pair

section

variable {halves : Halves} {text rest : List Char}

theorem length_of_value? {value : Json} (taken : value? halves text = some (value, rest)) :
    rest.length < text.length := by
  obtain ⟨found, -, same⟩ := Option.map_eq_some_iff.1 taken
  cases same
  exact found.shorter

theorem value?_eq (halves : Halves) (text : List Char) :
    value? halves text =
      match skipBlank text with
      | '"' :: body => (takeChars? halves body).map fun taken => (.string (String.ofList taken.1), taken.2)
      | '[' :: body =>
        match skipBlank body with
        | ']' :: rest => some (.array [], rest)
        | _ => (elements? halves body).map fun taken => (.array taken.1, taken.2)
      | '\x7b' :: body =>
        match skipBlank body with
        | '\x7d' :: rest => some (.object [], rest)
        | _ => (members? halves body).map fun taken => (.object taken.1, taken.2)
      | plain => takePlain? plain := by
  rw [value?, takeValue?]
  split
  · rename_i body start
    simp only [start]
    split
    · rename_i absent
      simp [absent]
    · rename_i found
      simp [found, Taken.pair]
  · rename_i body start
    simp only [start]
    split
    · rename_i rest finish
      simp [finish, Taken.pair]
    · simp [elements?, Function.comp_def, Taken.map, Taken.pair]
  · rename_i body start
    simp only [start]
    split
    · rename_i rest finish
      simp [finish, Taken.pair]
    · simp [members?, Function.comp_def, Taken.map, Taken.pair]
  · rename_i notString notArray notObject
    split
    · rename_i absent
      simp_all
    · rename_i found
      simp_all [Taken.pair]

theorem elements?_eq (halves : Halves) (text : List Char) :
    elements? halves text =
      match value? halves text with
      | none => none
      | some (value, behind) =>
        match skipBlank behind with
        | ',' :: next => (elements? halves next).map fun taken => (value :: taken.1, taken.2)
        | ']' :: rest => some ([value], rest)
        | _ => none := by
  rw [elements?, takeElements?, value?]
  split
  · rename_i absent
    simp [absent]
  · rename_i value behind shorter found
    simp only [found, Option.map_some, Taken.pair]
    split
    · rename_i next follows
      simp [follows, elements?, Function.comp_def, Taken.map, Taken.pair]
    · rename_i rest follows
      simp [follows, Taken.pair]
    · simp

theorem members?_eq (halves : Halves) (text : List Char) :
    members? halves text =
      match skipBlank text with
      | '"' :: body =>
        match takeChars? halves body with
        | none => none
        | some (name, afterName) =>
          match skipBlank afterName with
          | ':' :: afterColon =>
            match value? halves afterColon with
            | none => none
            | some (value, behind) =>
              match skipBlank behind with
              | ',' :: next =>
                (members? halves next).map fun taken => ((String.ofList name, value) :: taken.1, taken.2)
              | '\x7d' :: rest => some ([(String.ofList name, value)], rest)
              | _ => none
          | _ => none
      | _ => none := by
  rw [members?, takeMembers?]
  split
  · rename_i body start
    simp only [start]
    split
    · rename_i absent
      simp [absent]
    · rename_i name afterName found
      simp only [found]
      split
      · rename_i afterColon colon
        simp only [colon, value?]
        split
        · rename_i absent
          simp [absent]
        · rename_i value behind shorter found
          simp only [found, Option.map_some, Taken.pair]
          split
          · rename_i next follows
            simp [follows, members?, Function.comp_def, Taken.map, Taken.pair]
          · rename_i rest follows
            simp [follows, Taken.pair]
          · simp
      · simp_all
  · simp_all

end

/-! ## What is taken is spelled -/

section

variable {halves : Halves} {text rest : List Char}

theorem spells_of_takePlain? {value : Json} (taken : takePlain? text = some (value, rest)) :
    ∃ body, text = body ++ rest ∧ Spells halves value body := by
  unfold takePlain? at taken
  split at taken
  · rename_i found
    cases taken
    unfold takeWord? at found
    split at found <;> cases found
    · exact ⟨['n', 'u', 'l', 'l'], rfl, rfl⟩
    · exact ⟨['t', 'r', 'u', 'e'], rfl, rfl⟩
    · exact ⟨['f', 'a', 'l', 's', 'e'], rfl, rfl⟩
  · obtain ⟨⟨numeral, left⟩, found, same⟩ := Option.map_eq_some_iff.1 taken
    cases same
    exact spells_of_takeNumeral? found

/-- White space, a piece and white space again, seen by the readers. -/
theorem spaced_append {inner : List Char → Prop} {blank body behind : List Char} {c : Char}
    (parts : text = blank ++ (body ++ behind)) (isBlank : Blank blank) (spelled : inner body)
    (follows : skipBlank behind = c :: rest) : ∃ front, text = front ++ c :: rest ∧ Spaced inner front := by
  obtain ⟨blank', isBlank', split⟩ := exists_blank_append_skipBlank behind
  refine ⟨blank ++ (body ++ blank'), ?_, blank, body, blank', rfl, isBlank, spelled, isBlank'⟩
  rw [parts, split, follows]
  simp

theorem spaced_string_of_takeChars? {body name behind : List Char} {c : Char}
    (start : skipBlank text = '"' :: body) (taken : takeChars? halves body = some (name, behind))
    (follows : skipBlank behind = c :: rest) :
    ∃ label, text = label ++ c :: rest ∧ Spaced (SpellsString halves (String.ofList name)) label := by
  obtain ⟨blank, isBlank, split⟩ := exists_blank_append_skipBlank text
  obtain ⟨inside, rfl, spelled⟩ := spells_of_takeChars? taken
  have parts : text = blank ++ ('"' :: (inside ++ ['"']) ++ behind) := by
    rw [split, start]
    simp
  exact spaced_append parts isBlank ⟨inside, rfl, by rwa [String.toList_ofList]⟩ follows

theorem spellsElements_cons {element : Json} {rest : List Json} {first behind : List Char}
    (further : rest ≠ []) (spaced : Spaced (Spells halves element) first)
    (spelled : SpellsElements halves rest behind) :
    SpellsElements halves (element :: rest) (first ++ ',' :: behind) := by
  cases rest with
  | nil => exact absurd rfl further
  | cons next rest => exact ⟨first, behind, rfl, spaced, spelled⟩

theorem spellsMembers_cons {mode : String → Halves} {name : String} {value : Json}
    {rest : List (String × Json)} {first behind : List Char} (further : rest ≠ [])
    (spelled : SpellsMember halves name (Spells (mode name) value) first)
    (spelledRest : SpellsMembers halves mode rest behind) :
    SpellsMembers halves mode ((name, value) :: rest) (first ++ ',' :: behind) := by
  cases rest with
  | nil => exact absurd rfl further
  | cons next rest => exact ⟨first, behind, rfl, spelled, spelledRest⟩

end

mutual

theorem spells_of_value? {halves : Halves} {text rest : List Char} {value : Json}
    (taken : value? halves text = some (value, rest)) :
    ∃ blank body, text = blank ++ (body ++ rest) ∧ Blank blank ∧ Spells halves value body := by
  obtain ⟨blank, isBlank, split⟩ := exists_blank_append_skipBlank text
  suffices ∃ body, skipBlank text = body ++ rest ∧ Spells halves value body by
    obtain ⟨body, parts, spelled⟩ := this
    exact ⟨blank, body, by rw [← parts]; exact split, isBlank, spelled⟩
  rw [value?_eq] at taken
  split at taken
  · rename_i body start
    obtain ⟨⟨chars, left⟩, found, same⟩ := Option.map_eq_some_iff.1 taken
    cases same
    obtain ⟨inside, rfl, spelled⟩ := spells_of_takeChars? found
    exact ⟨'"' :: (inside ++ ['"']), by simp [start], inside, rfl, by rwa [String.toList_ofList]⟩
  · rename_i body start
    have shorter := length_lt_of_skipBlank start
    split at taken
    · rename_i left finish
      cases taken
      obtain ⟨blank', isBlank', split'⟩ := exists_blank_append_skipBlank body
      refine ⟨'[' :: (blank' ++ [']']), ?_, blank', rfl, isBlank'⟩
      rw [start, split', finish]
      simp
    · obtain ⟨⟨elements, left⟩, found, same⟩ := Option.map_eq_some_iff.1 taken
      cases same
      obtain ⟨-, inside, rfl, spelled⟩ := spells_of_elements? found
      exact ⟨'[' :: (inside ++ [']']), by simp [start], inside, rfl, spelled⟩
  · rename_i body start
    have shorter := length_lt_of_skipBlank start
    split at taken
    · rename_i left finish
      cases taken
      obtain ⟨blank', isBlank', split'⟩ := exists_blank_append_skipBlank body
      refine ⟨'\x7b' :: (blank' ++ ['\x7d']), ?_, blank', rfl, isBlank'⟩
      rw [start, split', finish]
      simp
    · obtain ⟨⟨members, left⟩, found, same⟩ := Option.map_eq_some_iff.1 taken
      cases same
      obtain ⟨-, inside, rfl, spelled⟩ := spells_of_members? found
      exact ⟨'\x7b' :: (inside ++ ['\x7d']), by simp [start], inside, rfl, spelled⟩
  · exact spells_of_takePlain? taken
termination_by (text.length, 0)

theorem spells_of_elements? {halves : Halves} {text rest : List Char} {elements : List Json}
    (taken : elements? halves text = some (elements, rest)) :
    elements ≠ [] ∧ ∃ body, text = body ++ ']' :: rest ∧ SpellsElements halves elements body := by
  rw [elements?_eq] at taken
  split at taken
  · cases taken
  · rename_i value behind found
    obtain ⟨blank, body, parts, isBlank, spelled⟩ := spells_of_value? found
    split at taken
    · rename_i next follows
      have shorter := Nat.lt_trans (length_lt_of_skipBlank follows) (length_of_value? found)
      obtain ⟨⟨others, left⟩, foundOthers, same⟩ := Option.map_eq_some_iff.1 taken
      cases same
      obtain ⟨further, inside, rfl, spelledOthers⟩ := spells_of_elements? foundOthers
      obtain ⟨front, rfl, spaced⟩ := spaced_append parts isBlank spelled follows
      refine ⟨List.cons_ne_nil _ _, front ++ ',' :: inside, by simp, ?_⟩
      exact spellsElements_cons further spaced spelledOthers
    · rename_i left follows
      cases taken
      exact ⟨List.cons_ne_nil _ _, spaced_append parts isBlank spelled follows⟩
    · cases taken
termination_by (text.length, 1)

theorem spells_of_members? {halves : Halves} {text rest : List Char} {members : List (String × Json)}
    (taken : members? halves text = some (members, rest)) :
    members ≠ [] ∧ ∃ body, text = body ++ '\x7d' :: rest ∧ SpellsMembers halves (fun _ => halves) members body := by
  rw [members?_eq] at taken
  split at taken
  · rename_i body start
    split at taken
    · cases taken
    · rename_i name afterName foundName
      split at taken
      · rename_i afterColon colon
        split at taken
        · cases taken
        · rename_i value behind found
          have shorter : afterColon.length < text.length := Nat.lt_trans (length_lt_of_skipBlank colon)
            (Nat.lt_trans (length_takeChars? foundName) (length_lt_of_skipBlank start))
          obtain ⟨label, rfl, spacedLabel⟩ := spaced_string_of_takeChars? start foundName colon
          obtain ⟨blank, body, parts, isBlank, spelled⟩ := spells_of_value? found
          split at taken
          · rename_i next follows
            have shorter' : next.length < afterColon.length :=
              Nat.lt_trans (length_lt_of_skipBlank follows) (length_of_value? found)
            obtain ⟨⟨others, left⟩, foundOthers, same⟩ := Option.map_eq_some_iff.1 taken
            cases same
            obtain ⟨further, inside, rfl, spelledOthers⟩ := spells_of_members? foundOthers
            obtain ⟨front, rfl, spaced⟩ := spaced_append parts isBlank spelled follows
            refine ⟨List.cons_ne_nil _ _, label ++ ':' :: (front ++ ',' :: inside), by simp, ?_⟩
            rw [← List.cons_append, ← List.append_assoc]
            exact spellsMembers_cons further ⟨label, front, rfl, spacedLabel, spaced⟩ spelledOthers
          · rename_i left follows
            cases taken
            obtain ⟨front, rfl, spaced⟩ := spaced_append parts isBlank spelled follows
            exact ⟨List.cons_ne_nil _ _, label ++ ':' :: front, by simp, label, front, rfl, spacedLabel, spaced⟩
          · cases taken
      · cases taken
  · cases taken
termination_by (text.length, 0)

end

/-! ## What is spelled is taken -/

section

variable {halves : Halves} {body : List Char}

/-- The first character of a value, which is no white space and ends nothing. -/
def Opens (c : Char) : Prop :=
  isSpace c = false ∧ c ≠ ']' ∧ c ≠ '\x7d'

instance (c : Char) : Decidable (Opens c) :=
  inferInstanceAs (Decidable (_ ∧ _ ∧ _))

theorem eq_of_isSpace {c : Char} (space : isSpace c = true) : c = ' ' ∨ c = '\t' ∨ c = '\n' ∨ c = '\r' := by
  simpa [isSpace, or_assoc] using space

theorem opens_of_isDigit {c : Char} (digit : c.isDigit = true) : Opens c := by
  refine ⟨Bool.eq_false_iff.2 fun space => ?_, ?_, ?_⟩
  · obtain rfl | rfl | rfl | rfl := eq_of_isSpace space <;> cases digit
  · rintro rfl
    cases digit
  · rintro rfl
    cases digit

theorem SpellsNumeral.head {numeral : Numeral} (spelled : SpellsNumeral numeral body) :
    ∃ c others, body = c :: others ∧ (c = '-' ∨ c.isDigit = true) := by
  obtain ⟨_, fraction, exponent, rfl, rfl, ⟨⟨filled, digits⟩, -⟩, -⟩ := spelled
  cases numeral.negative with
  | true => exact ⟨'-', _, rfl, .inl rfl⟩
  | false =>
    obtain ⟨c, others, whole⟩ := List.exists_cons_of_ne_nil filled
    exact ⟨c, others ++ (fraction ++ exponent), by simp [whole], .inr (digits c (by simp [whole]))⟩

theorem Spells.head {value : Json} (spelled : Spells halves value body) :
    ∃ c others, body = c :: others ∧ Opens c := by
  match value with
  | .null | .bool true | .bool false => exact ⟨_, _, spelled, by decide⟩
  | .number numeral =>
    obtain ⟨c, others, rfl, rfl | digit⟩ := SpellsNumeral.head spelled
    · exact ⟨_, _, rfl, by decide⟩
    · exact ⟨_, _, rfl, opens_of_isDigit digit⟩
  | .string text =>
    obtain ⟨inside, rfl, -⟩ := spelled
    exact ⟨_, _, rfl, by decide⟩
  | .array elements =>
    obtain ⟨inside, rfl, -⟩ := spelled
    exact ⟨_, _, rfl, by decide⟩
  | .object members =>
    obtain ⟨inside, rfl, -⟩ := spelled
    exact ⟨_, _, rfl, by decide⟩

theorem skipBlank_blank_append {blank : List Char} (isBlank : Blank blank) {c : Char}
    (solid : isSpace c = false) (rest : List Char) : skipBlank (blank ++ c :: rest) = c :: rest := by
  rw [skipBlank_append isBlank, skipBlank_cons _ solid]

theorem skipBlank_spells {value : Json} {blank : List Char} (isBlank : Blank blank)
    (spelled : Spells halves value body) (rest : List Char) :
    skipBlank (blank ++ (body ++ rest)) = body ++ rest := by
  obtain ⟨c, others, rfl, solid, -⟩ := spelled.head
  exact skipBlank_blank_append isBlank solid _

/-- What may come behind a value and its white space. -/
def Stops (c : Char) : Prop :=
  c = ',' ∨ c = ']' ∨ c = '\x7d'

theorem Stops.solid {c : Char} (stops : Stops c) : isSpace c = false := by
  obtain rfl | rfl | rfl := stops <;> rfl

theorem ends_blank_append {blank : List Char} (isBlank : Blank blank) {c : Char} (stops : Stops c)
    (rest : List Char) : Ends (blank ++ c :: rest) := by
  cases blank with
  | nil =>
    rintro _ ⟨⟩
    obtain rfl | rfl | rfl := stops <;> decide
  | cons d blank =>
    rintro _ ⟨⟩
    obtain rfl | rfl | rfl | rfl := eq_of_isSpace (isBlank d List.mem_cons_self) <;> decide

/-! ### Numbers -/

theorem takePlain?_number {numeral : Numeral} {rest : List Char} (spelled : SpellsNumeral numeral body)
    (ends : Ends rest) : takePlain? (body ++ rest) = some (.number numeral, rest) := by
  have noWord : takeWord? (body ++ rest) = none := by
    obtain ⟨c, others, rfl, first⟩ := spelled.head
    rw [List.cons_append]
    unfold takeWord?
    split
    iterate 3
      · rename_i same
        obtain ⟨rfl, -⟩ := List.cons.inj same
        exact absurd first (by decide)
    · rfl
  simp only [takePlain?, noWord, takeNumeral?_append spelled ends]
  rfl

theorem value?_of_number {text others : List Char} {c : Char} (start : skipBlank text = c :: others)
    (first : c = '-' ∨ c.isDigit = true) : value? halves text = takePlain? (c :: others) := by
  rw [value?_eq, start]
  split
  iterate 3
    · rename_i same
      obtain ⟨rfl, -⟩ := List.cons.inj same
      exact absurd first (by decide)
  · rfl

/-! ### Groups -/

/-- The reader of values takes every spelling of the value, and stops behind it. -/
def Taken? (halves : Halves) (value : Json) : Prop :=
  ∀ blank body rest, Blank blank → Ends rest → Spells halves value body →
    value? halves (blank ++ (body ++ rest)) = some (value, rest)

/-- A value with white space around it is taken, and the white space behind it is left. -/
theorem Taken?.spaced {value : Json} {first : List Char} {c : Char} (taken : Taken? halves value)
    (spaced : Spaced (Spells halves value) first) (stops : Stops c) (rest : List Char) :
    ∃ behind, value? halves (first ++ c :: rest) = some (value, behind) ∧ skipBlank behind = c :: rest := by
  obtain ⟨before, body, behind, rfl, isBefore, spelled, isBehind⟩ := spaced
  refine ⟨behind ++ c :: rest, ?_, skipBlank_blank_append isBehind stops.solid rest⟩
  rw [List.append_assoc, List.append_assoc]
  exact taken before body _ isBefore (ends_blank_append isBehind stops rest) spelled

theorem head_spaced {value : Json} {first : List Char} (spaced : Spaced (Spells halves value) first)
    (rest : List Char) : ∃ c others, skipBlank (first ++ rest) = c :: others ∧ Opens c := by
  obtain ⟨before, body, behind, rfl, isBefore, spelled, -⟩ := spaced
  obtain ⟨c, others, rfl, opens⟩ := spelled.head
  refine ⟨c, others ++ (behind ++ rest), ?_, opens⟩
  simp only [List.append_assoc, List.cons_append]
  exact skipBlank_blank_append isBefore opens.1 _

theorem head_spellsElements {elements : List Json} (filled : elements ≠ [])
    (spelled : SpellsElements halves elements body) (rest : List Char) :
    ∃ c others, skipBlank (body ++ rest) = c :: others ∧ Opens c := by
  match elements, spelled with
  | [], _ => exact absurd rfl filled
  | [element], spaced => exact head_spaced spaced rest
  | element :: next :: others, ⟨first, behind, parts, spaced, _⟩ =>
    rw [parts, List.append_assoc]
    exact head_spaced spaced _

theorem value?_elements {text inside rest : List Char} {elements : List Json} {c : Char} {others : List Char}
    (start : skipBlank text = '[' :: inside) (first : skipBlank inside = c :: others) (opens : Opens c)
    (taken : elements? halves inside = some (elements, rest)) :
    value? halves text = some (.array elements, rest) := by
  rw [value?_eq, start]
  simp only [first]
  split
  · rename_i same
    exact absurd (List.cons.inj same).1 opens.2.1
  · rw [taken]
    rfl

theorem value?_members {text inside rest : List Char} {members : List (String × Json)} {others : List Char}
    (start : skipBlank text = '\x7b' :: inside) (first : skipBlank inside = '"' :: others)
    (taken : members? halves inside = some (members, rest)) :
    value? halves text = some (.object members, rest) := by
  rw [value?_eq, start]
  simp only [first, taken]
  rfl

/-- The name of a member with its colon is taken as a string and the white space behind it. -/
theorem SpellsMember.label {name : String} {inner : List Char → Prop} {text : List Char}
    (spelled : SpellsMember halves name inner text) (rest : List Char) :
    ∃ inside afterName value, skipBlank (text ++ rest) = '"' :: inside ∧
      takeChars? halves inside = some (name.toList, afterName) ∧
      skipBlank afterName = ':' :: (value ++ rest) ∧ Spaced inner value := by
  obtain ⟨label, value, rfl, ⟨before, _, behind, rfl, isBefore, ⟨inside, rfl, spelledName⟩, isBehind⟩, spaced⟩ := spelled
  refine ⟨inside ++ '"' :: (behind ++ ':' :: (value ++ rest)), behind ++ ':' :: (value ++ rest), value, ?_,
    spelledName.takeChars? _, skipBlank_blank_append isBehind rfl _, spaced⟩
  simp only [List.append_assoc, List.cons_append, List.nil_append]
  exact skipBlank_blank_append isBefore rfl _

theorem head_spellsMembers {mode : String → Halves} {members : List (String × Json)} (filled : members ≠ [])
    (spelled : SpellsMembers halves mode members body) (rest : List Char) :
    ∃ others, skipBlank (body ++ rest) = '"' :: others := by
  match members, spelled with
  | [], _ => exact absurd rfl filled
  | [(name, value)], spelled =>
    obtain ⟨inside, _, _, start, -⟩ := SpellsMember.label spelled rest
    exact ⟨inside, start⟩
  | (name, value) :: next :: others, ⟨first, behind, parts, spelled, _⟩ =>
    obtain ⟨inside, _, _, start, -⟩ := SpellsMember.label spelled (',' :: behind ++ rest)
    exact ⟨inside, by rw [parts, List.append_assoc, start]⟩

end

mutual

theorem taken_value (halves : Halves) : ∀ value : Json, Taken? halves value
  | .null | .bool true | .bool false => by
    intro blank body rest isBlank ends spelled
    rw [value?_eq, skipBlank_spells isBlank spelled rest]
    obtain rfl := spelled
    rfl
  | .number numeral => by
    intro blank body rest isBlank ends spelled
    have start := skipBlank_spells isBlank spelled rest
    obtain ⟨c, others, rfl, first⟩ := SpellsNumeral.head spelled
    rw [value?_of_number start first]
    exact takePlain?_number spelled ends
  | .string text => by
    intro blank body rest isBlank ends spelled
    rw [value?_eq, skipBlank_spells isBlank spelled rest]
    obtain ⟨inside, rfl, spelledChars⟩ := spelled
    simp [spelledChars.takeChars? rest]
  | .array [] => by
    intro blank body rest isBlank ends spelled
    rw [value?_eq, skipBlank_spells isBlank spelled rest]
    obtain ⟨inside, rfl, isInside⟩ := spelled
    have finish : skipBlank (inside ++ ']' :: rest) = ']' :: rest := skipBlank_blank_append isInside rfl rest
    simp [finish]
  | .array (element :: elements) => by
    intro blank body rest isBlank ends spelled
    have start := skipBlank_spells isBlank spelled rest
    obtain ⟨inside, rfl, spelledElements⟩ := spelled
    have start' : skipBlank (blank ++ ('[' :: (inside ++ [']']) ++ rest)) = '[' :: (inside ++ ']' :: rest) := by
      rw [start]
      simp
    obtain ⟨c, others, first, opens⟩ := head_spellsElements (List.cons_ne_nil _ _) spelledElements (']' :: rest)
    exact value?_elements start' first opens
      (taken_elements halves (element :: elements) inside rest (List.cons_ne_nil _ _) spelledElements)
  | .object [] => by
    intro blank body rest isBlank ends spelled
    rw [value?_eq, skipBlank_spells isBlank spelled rest]
    obtain ⟨inside, rfl, isInside⟩ := spelled
    have finish : skipBlank (inside ++ '\x7d' :: rest) = '\x7d' :: rest :=
      skipBlank_blank_append isInside rfl rest
    simp [finish]
  | .object (member :: members) => by
    intro blank body rest isBlank ends spelled
    have start := skipBlank_spells isBlank spelled rest
    obtain ⟨inside, rfl, spelledMembers⟩ := spelled
    have start' : skipBlank (blank ++ ('\x7b' :: (inside ++ ['\x7d']) ++ rest)) =
        '\x7b' :: (inside ++ '\x7d' :: rest) := by
      rw [start]
      simp
    obtain ⟨others, first⟩ := head_spellsMembers (List.cons_ne_nil _ _) spelledMembers ('\x7d' :: rest)
    exact value?_members start' first
      (taken_members halves (member :: members) inside rest (List.cons_ne_nil _ _) spelledMembers)

theorem taken_elements (halves : Halves) : ∀ (elements : List Json) (body rest : List Char), elements ≠ [] →
    SpellsElements halves elements body → elements? halves (body ++ ']' :: rest) = some (elements, rest)
  | [], _, _, filled, _ => absurd rfl filled
  | [element], body, rest, _, spaced => by
    obtain ⟨behind, taken, follows⟩ :=
      (taken_value halves element).spaced spaced (.inr (.inl rfl)) rest
    rw [elements?_eq, taken]
    simp only [follows]
  | element :: next :: others, _, rest, _, ⟨first, behind, parts, spaced, spelled⟩ => by
    obtain ⟨left, taken, follows⟩ :=
      (taken_value halves element).spaced spaced (.inl rfl) (behind ++ ']' :: rest)
    have further := taken_elements halves (next :: others) behind rest (List.cons_ne_nil _ _) spelled
    rw [parts, List.append_assoc, List.cons_append, elements?_eq, taken]
    simp only [follows, further]
    rfl

theorem taken_members (halves : Halves) : ∀ (members : List (String × Json)) (body rest : List Char),
    members ≠ [] → SpellsMembers halves (fun _ => halves) members body →
      members? halves (body ++ '\x7d' :: rest) = some (members, rest)
  | [], _, _, filled, _ => absurd rfl filled
  | [(name, value)], body, rest, _, spelled => by
    obtain ⟨inside, afterName, spelledValue, start, named, colon, spaced⟩ :=
      SpellsMember.label spelled ('\x7d' :: rest)
    obtain ⟨behind, taken, follows⟩ :=
      (taken_value halves value).spaced spaced (.inr (.inr rfl)) rest
    rw [members?_eq, start]
    simp only [named, colon, taken, follows, String.ofList_toList]
  | (name, value) :: next :: others, _, rest, _, ⟨first, behind, parts, spelled, spelledOthers⟩ => by
    obtain ⟨inside, afterName, spelledValue, start, named, colon, spaced⟩ :=
      SpellsMember.label spelled (',' :: (behind ++ '\x7d' :: rest))
    obtain ⟨left, taken, follows⟩ :=
      (taken_value halves value).spaced spaced (.inl rfl) (behind ++ '\x7d' :: rest)
    have further := taken_members halves (next :: others) behind rest (List.cons_ne_nil _ _) spelledOthers
    rw [parts, List.append_assoc, List.cons_append, members?_eq, start]
    simp only [named, colon, taken, follows, further, String.ofList_toList]
    rfl

end

/-! ## Whole texts -/

theorem ends_of_blank {blank : List Char} (isBlank : Blank blank) : Ends blank := by
  intro c first
  obtain rfl | rfl | rfl | rfl := eq_of_isSpace (isBlank c (List.mem_of_mem_head? first)) <;> decide

theorem skipBlank_eq_nil_iff {text : List Char} : skipBlank text = [] ↔ Blank text :=
  List.dropWhile_eq_nil_iff

theorem spaced_spells_iff {halves : Halves} {value : Json} {text : List Char} :
    Spaced (Spells halves value) text ↔ ∃ rest, value? halves text = some (value, rest) ∧ Blank rest := by
  constructor
  · rintro ⟨before, body, behind, rfl, isBefore, spelled, isBehind⟩
    exact ⟨behind, taken_value halves value before body behind isBefore (ends_of_blank isBehind) spelled,
      isBehind⟩
  · rintro ⟨rest, taken, isBlank⟩
    obtain ⟨before, body, rfl, isBefore, spelled⟩ := spells_of_value? taken
    exact ⟨before, body, rest, rfl, isBefore, spelled, isBlank⟩

/-- A text stands for one value at most. -/
theorem spaced_spells_unique {halves : Halves} {value other : Json} {text : List Char}
    (spelled : Spaced (Spells halves value) text) (spelled' : Spaced (Spells halves other) text) :
    value = other := by
  obtain ⟨rest, taken, -⟩ := spaced_spells_iff.1 spelled
  obtain ⟨rest', taken', -⟩ := spaced_spells_iff.1 spelled'
  rw [taken] at taken'
  cases taken'
  rfl

theorem parse?_eq_some_iff {value : Json} {text : String} :
    parse? text = some value ↔ IsTextOf value text := by
  rw [IsTextOf, spaced_spells_iff, parse?, value?]
  cases takeValue? .refused text.toList with
  | none => simp
  | some taken =>
    by_cases isBlank : Blank taken.rest
    · simp [Taken.pair, and_assoc, skipBlank_eq_nil_iff.2 isBlank, isBlank]
    · have unread : skipBlank taken.rest ≠ [] := fun none => isBlank (skipBlank_eq_nil_iff.1 none)
      simp [Taken.pair, and_assoc, unread, isBlank]

end Varsheet.Json
