import Mathlib.Data.List.TakeWhile
import Varsheet.Command.Run
import Varsheet.Proofs.Command.Given

/-!
# Spelling a command line

The same settings can be written in many ways: with long names or letters, values apart or attached, letters one by one
or together, and all of it in any order around the input. Whichever way is taken, each part of the command line gives
what it spells and leaves the rest to be read, so a value is never taken for an option or for the input.

* `StandsAlone` : texts that are no options
* `SpellsPart` : arguments that belong together, and what they give
* `SpellsAll`, `Settings.SpelledBy` : whole command lines
* `readArgument`, `readArgs_cons` : arguments are read one by one, each by its form
* `SpellsPart.readArgs_append` : a part is read as what it gives
* `SpellsAll.readArgs_eq` : and so is a command line
* `run_eq_of_spelledBy` : all spellings of the same settings come to the same
-/

namespace Varsheet.Command

/-- The text does not start with a hyphen, unless it is nothing but that. -/
def StandsAlone (text : String) : Prop :=
  text.toList.head? = some '-' → text = "-"

instance (text : String) : Decidable (StandsAlone text) :=
  inferInstanceAs (Decidable (_ → _))

/-- The letters of switches, one for each. -/
def AreLetters (letters : List Char) (switches : List Switch) : Prop :=
  switches.map Switch.letter? = letters.map some

instance (letters : List Char) (switches : List Switch) : Decidable (AreLetters letters switches) :=
  inferInstanceAs (Decidable (_ = _))

/-- Arguments that belong together, and what they give. -/
inductive SpellsPart : List String → List Given → Prop where
  | longApart (setting : Setting) {value : String} (alone : StandsAlone value) :
      SpellsPart ["--" ++ setting.longName, value] [.value setting value]
  | longAttached (setting : Setting) (value : String) :
      SpellsPart ["--" ++ setting.longName ++ "=" ++ value] [.value setting value]
  | longSwitch (switch : Switch) : SpellsPart ["--" ++ switch.longName] [.on switch]
  | letters {letters : List Char} {switches : List Switch} (named : AreLetters letters switches)
      (present : letters ≠ []) : SpellsPart [String.ofList ('-' :: letters)] (switches.map .on)
  /-- The last letter is that of an option with a value, which is the next argument. -/
  | lettersApart {letters : List Char} {switches : List Switch} (named : AreLetters letters switches)
      {setting : Setting} {letter : Char} (last : setting.letter? = some letter) {value : String}
      (alone : StandsAlone value) :
      SpellsPart [String.ofList ('-' :: (letters ++ [letter])), value]
        (switches.map .on ++ [.value setting value])
  | lettersEquals {letters : List Char} {switches : List Switch} (named : AreLetters letters switches)
      {setting : Setting} {letter : Char} (last : setting.letter? = some letter) {value : String}
      (filled : value ≠ "") :
      SpellsPart [String.ofList ('-' :: (letters ++ letter :: '=' :: value.toList))]
        (switches.map .on ++ [.value setting value])
  | lettersAttached {letters : List Char} {switches : List Switch} (named : AreLetters letters switches)
      {setting : Setting} {letter : Char} (last : setting.letter? = some letter) {value : String}
      (filled : value ≠ "") (noEquals : value.toList.head? ≠ some '=') (noHyphen : value.toList.head? ≠ some '-') :
      SpellsPart [String.ofList ('-' :: (letters ++ letter :: value.toList))]
        (switches.map .on ++ [.value setting value])
  | input {path : String} (alone : StandsAlone path) : SpellsPart [path] [.input path]

/-- A whole command line, and what it gives. -/
inductive SpellsAll : List String → List Given → Prop where
  | nothing : SpellsAll [] []
  | part {front args : List String} {givens later : List Given} (first : SpellsPart front givens)
      (rest : SpellsAll args later) : SpellsAll (front ++ args) (givens ++ later)
  /-- Behind two hyphens the input comes last, and can start with a hyphen. -/
  | divided (path : String) : SpellsAll ["--", path] [.input path]

/-- The command line gives all that the settings have, each of it once and in any order. -/
def Settings.SpelledBy (settings : Settings) (args : List String) : Prop :=
  ∃ givens, SpellsAll args givens ∧ settings.GivenBy givens

/-! ## The form of an argument -/

/-- A long name is not empty, has no equals sign in it, and is not the one that asks for help. -/
def IsLongName (name : String) : Prop :=
  name ≠ "" ∧ '=' ∉ name.toList ∧ name ≠ "help"

instance (name : String) : Decidable (IsLongName name) :=
  inferInstanceAs (Decidable (_ ∧ _ ∧ _))

section

variable {name text : String}

theorem ofString_plain (alone : StandsAlone text) : Argument.ofString text = .plain text := by
  have noHyphen (c : Char) (rest : List Char) : text.toList ≠ '-' :: c :: rest := by
    intro hyphen
    rw [alone (by rw [hyphen]; rfl)] at hyphen
    cases hyphen
  unfold Argument.ofString
  split
  · exact absurd ‹_› (noHyphen _ _)
  · exact absurd ‹_› (noHyphen _ _)
  · exact absurd ‹_› (noHyphen _ _)
  · rfl

theorem ofString_long (named : IsLongName name) : Argument.ofString ("--" ++ name) = .long name none := by
  obtain ⟨filled, plain, -⟩ := named
  obtain ⟨c, rest, parts⟩ := List.exists_cons_of_ne_nil (mt String.toList_eq_nil_iff.1 filled)
  have noValue : (c :: rest).dropWhile (· ≠ '=') = [] := by
    rw [← parts, List.dropWhile_eq_nil_iff]
    exact fun d member => decide_eq_true fun (same : d = '=') => plain (same ▸ member)
  have whole : ("--" ++ name).toList = '-' :: '-' :: c :: rest := by
    rw [String.toList_append, parts]
    rfl
  simp only [Argument.ofString, whole, noValue]
  rw [← parts, String.ofList_toList]

theorem ofString_longAttached (named : IsLongName name) (value : String) :
    Argument.ofString ("--" ++ name ++ "=" ++ value) = .long name (some value) := by
  obtain ⟨-, plain, -⟩ := named
  have before : ∀ c ∈ name.toList, decide (c ≠ '=') = true :=
    fun c member => decide_eq_true fun same => plain (same ▸ member)
  have front : (name.toList ++ '=' :: value.toList).takeWhile (· ≠ '=') = name.toList := by
    rw [List.takeWhile_append_of_pos before, List.takeWhile_cons_of_neg (by simp), List.append_nil]
  have behind : (name.toList ++ '=' :: value.toList).dropWhile (· ≠ '=') = '=' :: value.toList := by
    rw [List.dropWhile_append_of_pos before, List.dropWhile_cons_of_neg (by simp)]
  have whole : ("--" ++ name ++ "=" ++ value).toList = '-' :: '-' :: (name.toList ++ '=' :: value.toList) := by
    simp
  obtain ⟨c, rest, parts⟩ := List.exists_cons_of_ne_nil
    (List.append_ne_nil_of_right_ne_nil name.toList (List.cons_ne_nil '=' value.toList))
  rw [parts] at front behind whole
  simp only [Argument.ofString, whole, front, behind, String.ofList_toList]

theorem ofString_letters {letters : List Char} (present : letters ≠ []) (noHyphen : letters.head? ≠ some '-') :
    Argument.ofString (String.ofList ('-' :: letters)) = .letters letters := by
  obtain ⟨c, rest, rfl⟩ := List.exists_cons_of_ne_nil present
  unfold Argument.ofString
  rw [String.toList_ofList]
  split
  · rename_i same
    cases same
    exact absurd rfl noHyphen
  · rename_i same
    cases same
    exact absurd rfl noHyphen
  · rename_i same
    cases same
    rfl
  · rename_i noLetters
    exact absurd rfl (noLetters c rest)

theorem isValue_of_standsAlone (alone : StandsAlone text) : isValue text = true := by
  rw [isValue, ofString_plain alone]

end

/-! ## Names -/

theorem Setting.isLongName_longName (setting : Setting) : IsLongName setting.longName := by
  cases setting <;> decide

theorem Switch.isLongName_longName (switch : Switch) : IsLongName switch.longName := by
  cases switch <;> decide

theorem Setting.ofLong?_longName (setting : Setting) : ofLong? setting.longName = some setting := by
  cases setting <;> decide

theorem Switch.ofLong?_longName (switch : Switch) : ofLong? switch.longName = some switch := by
  cases switch <;> decide

theorem Switch.ofLong?_longName_setting (setting : Setting) : ofLong? setting.longName = none := by
  cases setting <;> decide

theorem Switch.ofLetter?_of_letter? {switch : Switch} {letter : Char} (named : switch.letter? = some letter) :
    ofLetter? letter = some switch := by
  cases switch <;> cases named <;> rfl

theorem Switch.ofLetter?_of_letter?_setting {setting : Setting} {letter : Char}
    (named : setting.letter? = some letter) : ofLetter? letter = none := by
  cases setting <;> cases named <;> rfl

theorem Setting.ofLetter?_of_letter? {setting : Setting} {letter : Char} (named : setting.letter? = some letter) :
    ofLetter? letter = some setting := by
  cases setting <;> cases named <;> rfl

/-- No letter is a hyphen, or the one that asks for help. -/
theorem Switch.letter_ne {switch : Switch} {letter : Char} (named : switch.letter? = some letter) :
    letter ≠ '-' ∧ letter ≠ 'h' := by
  cases switch <;> cases named <;> decide

theorem Setting.letter_ne {setting : Setting} {letter : Char} (named : setting.letter? = some letter) :
    letter ≠ '-' ∧ letter ≠ 'h' := by
  cases setting <;> cases named <;> decide

theorem Setting.head?_letter_ne {setting : Setting} {letter : Char} (named : setting.letter? = some letter)
    (tail : List Char) : (letter :: tail).head? ≠ some '-' :=
  fun hyphen => (letter_ne named).1 (Option.some.inj hyphen)

/-! ## Letters -/

section

variable {letters : List Char} {switch : Switch} {switches : List Switch} {setting : Setting} {letter : Char}

/-- What is attached to the letter of an option as its value. -/
def attached? : List Char → Option (List Char)
  | [] => none
  | '=' :: value => some value
  | value => some value

theorem attached?_of_head?_ne {value : List Char} (filled : value ≠ []) (noEquals : value.head? ≠ some '=') :
    attached? value = some value := by
  unfold attached?
  split
  · exact absurd rfl filled
  · exact absurd rfl noEquals
  · rfl

theorem readLetters_switch (named : switch.letter? = some letter) (settings : Settings) (tail : List Char) :
    readLetters settings (letter :: tail) =
      (settings.turnOn? switch).elim .mistake fun changed => readLetters changed tail := by
  rw [readLetters.eq_def]
  simp only [if_neg (Switch.letter_ne named).2, Switch.ofLetter?_of_letter? named]
  cases settings.turnOn? switch <;> rfl

theorem readLetters_setting (named : setting.letter? = some letter) (settings : Settings) (tail : List Char) :
    readLetters settings (letter :: tail) =
      (attached? tail).elim (.waiting settings setting) fun value =>
        (settings.set? setting (String.ofList value)).elim .mistake .done := by
  rw [readLetters.eq_def]
  simp only [if_neg (Setting.letter_ne named).2, Switch.ofLetter?_of_letter?_setting named,
    Setting.ofLetter?_of_letter? named]
  split
  · rename_i nothing
    rw [show attached? tail = none from nothing]
    rfl
  · rename_i value found
    rw [show attached? tail = some value from found]
    dsimp only [Option.elim]
    cases settings.set? setting (String.ofList value) <;> rfl

theorem readLetters_append (named : AreLetters letters switches) (settings : Settings) (tail : List Char) :
    readLetters settings (letters ++ tail) =
      (settings.giveAll? (switches.map .on)).elim .mistake fun changed => readLetters changed tail := by
  induction switches generalizing settings letters with
  | nil =>
    rw [List.map_eq_nil_iff.1 named.symm]
    rfl
  | cons switch switches ih =>
    obtain ⟨letter, rest, rfl, first, later⟩ := List.map_eq_cons_iff.1 named.symm
    rw [List.cons_append, readLetters_switch first.symm, List.map_cons, Settings.giveAll?, Settings.give?]
    cases settings.turnOn? switch with
    | none => rfl
    | some changed => exact ih later.symm changed

theorem readLetters_equals (named : setting.letter? = some letter) (settings : Settings) (value : String) :
    readLetters settings (letter :: '=' :: value.toList) = (settings.set? setting value).elim .mistake .done := by
  rw [readLetters_setting named, attached?, Option.elim, String.ofList_toList]

theorem readLetters_attached (named : setting.letter? = some letter) (settings : Settings) {value : String}
    (filled : value ≠ "") (noEquals : value.toList.head? ≠ some '=') :
    readLetters settings (letter :: value.toList) = (settings.set? setting value).elim .mistake .done := by
  have whole := attached?_of_head?_ne (mt String.toList_eq_nil_iff.1 filled) noEquals
  rw [readLetters_setting named, whole, Option.elim, String.ofList_toList]

end

/-! ## One argument -/

/-- Takes the next argument as the value of an option. -/
def readValue (settings : Settings) (setting : Setting) : List String → Request
  | [] => .mistake
  | value :: rest =>
    if isValue value then (settings.set? setting value).elim .mistake fun changed => readArgs changed rest
    else .mistake

/-- Goes on behind a group of letters. -/
def Letters.readOn (rest : List String) : Letters → Request
  | .done settings => readArgs settings rest
  | .waiting settings setting => readValue settings setting rest
  | .help => .help
  | .mistake => .mistake

/-- Reads one argument by its form, and then those behind it. -/
def readArgument (settings : Settings) (rest : List String) : Argument → Request
  | .divider => readNames settings rest
  | .plain path => (settings.setInput? path).elim .mistake fun changed => readArgs changed rest
  | .letters text => (readLetters settings text).readOn rest
  | .long name none =>
    if name = "help" then .help
    else
      match Switch.ofLong? name, Setting.ofLong? name with
      | some switch, _ => (settings.turnOn? switch).elim .mistake fun changed => readArgs changed rest
      | none, some setting => readValue settings setting rest
      | none, none => .mistake
  | .long name (some value) =>
    (Setting.ofLong? name).elim .mistake fun setting =>
      (settings.set? setting value).elim .mistake fun changed => readArgs changed rest

/-- The reader is opened only here. What follows goes by the form of an argument. -/
theorem readArgs_cons (settings : Settings) (argument : String) (rest : List String) :
    readArgs settings (argument :: rest) = readArgument settings rest (Argument.ofString argument) := by
  rw [readArgs.eq_def]
  dsimp only
  cases Argument.ofString argument with
  | divider => rfl
  | plain path =>
    dsimp only [readArgument]
    cases settings.setInput? path <;> rfl
  | letters text =>
    dsimp only [readArgument]
    cases readLetters settings text with
    | done changed => rfl
    | waiting changed setting =>
      cases rest with
      | nil => rfl
      | cons value rest =>
        dsimp only [Letters.readOn, readValue]
        cases changed.set? setting value <;> rfl
    | help => rfl
    | mistake => rfl
  | long name value =>
    cases value with
    | none =>
      dsimp only [readArgument]
      cases Switch.ofLong? name with
      | none =>
        cases Setting.ofLong? name with
        | none => rfl
        | some setting =>
          cases rest with
          | nil => rfl
          | cons value rest =>
            dsimp only [readValue]
            cases settings.set? setting value <;> rfl
      | some switch =>
        dsimp only
        cases settings.turnOn? switch <;> rfl
    | some value =>
      dsimp only [readArgument]
      cases Setting.ofLong? name with
      | none => rfl
      | some setting =>
        dsimp only [Option.elim]
        cases settings.set? setting value <;> rfl

theorem readValue_of_standsAlone {value : String} (alone : StandsAlone value) (settings : Settings) (setting : Setting)
    (rest : List String) :
    readValue settings setting (value :: rest) =
      (settings.give? (.value setting value)).elim .mistake fun changed => readArgs changed rest := by
  rw [readValue, isValue_of_standsAlone alone, if_pos rfl, Settings.give?]

theorem readArgs_letters {text : List Char} (present : text ≠ []) (noHyphen : text.head? ≠ some '-')
    (settings : Settings) (rest : List String) :
    readArgs settings (String.ofList ('-' :: text) :: rest) = (readLetters settings text).readOn rest := by
  rw [readArgs_cons, ofString_letters present noHyphen, readArgument]

/-! ## One part of a command line -/

section

variable {letters : List Char} {switches : List Switch}

theorem AreLetters.head?_ne (named : AreLetters letters switches) : letters.head? ≠ some '-' := by
  cases switches with
  | nil =>
    rw [List.map_eq_nil_iff.1 named.symm]
    exact nofun
  | cons switch switches =>
    obtain ⟨letter, rest, rfl, first, -⟩ := List.map_eq_cons_iff.1 named.symm
    exact fun hyphen => (Switch.letter_ne first.symm).1 (Option.some.inj hyphen)

theorem AreLetters.head?_append_ne (named : AreLetters letters switches) {setting : Setting} {letter : Char}
    (last : setting.letter? = some letter) (tail : List Char) :
    (letters ++ letter :: tail).head? ≠ some '-' := by
  cases letters with
  | nil => exact Setting.head?_letter_ne last tail
  | cons first letters => exact named.head?_ne

/-- The letters of switches in front of another letter could as well stand alone. -/
theorem readArgs_letters_append (named : AreLetters letters switches) {setting : Setting} {letter : Char}
    (last : setting.letter? = some letter) (settings : Settings) (tail : List Char) (rest : List String) :
    readArgs settings (String.ofList ('-' :: (letters ++ letter :: tail)) :: rest) =
      (settings.giveAll? (switches.map .on)).elim .mistake fun changed =>
        readArgs changed (String.ofList ('-' :: letter :: tail) :: rest) := by
  have present : letters ++ letter :: tail ≠ [] := List.append_ne_nil_of_right_ne_nil _ (List.cons_ne_nil _ _)
  rw [readArgs_letters present (named.head?_append_ne last tail), readLetters_append named]
  cases settings.giveAll? (switches.map .on) with
  | none => rfl
  | some changed =>
    exact (readArgs_letters (List.cons_ne_nil _ _) (Setting.head?_letter_ne last tail) changed rest).symm

/-- What is given together is given one after another. -/
theorem elim_giveAll?_append (settings : Settings) (front back : List Given) (next : Settings → Request) :
    (settings.giveAll? (front ++ back)).elim .mistake next =
      (settings.giveAll? front).elim .mistake fun changed => (changed.giveAll? back).elim .mistake next := by
  rw [Settings.giveAll?_append]
  cases settings.giveAll? front <;> rfl

theorem elim_giveAll?_singleton (settings : Settings) (given : Given) (next : Settings → Request) :
    (settings.giveAll? [given]).elim .mistake next = (settings.give? given).elim .mistake next := by
  rw [Settings.giveAll?]
  cases settings.give? given <;> rfl

section

variable {setting : Setting} {letter : Char} {value : String}

/-- An option with a value is read behind the letters of switches as it is alone. -/
theorem readArgs_letters_value (named : AreLetters letters switches) (last : setting.letter? = some letter)
    {tail : List Char} {args rest : List String}
    (read : ∀ settings : Settings, readArgs settings (String.ofList ('-' :: letter :: tail) :: args) =
      (settings.give? (.value setting value)).elim .mistake fun changed => readArgs changed rest)
    (settings : Settings) :
    readArgs settings (String.ofList ('-' :: (letters ++ letter :: tail)) :: args) =
      (settings.giveAll? (switches.map .on ++ [.value setting value])).elim .mistake fun changed =>
        readArgs changed rest := by
  rw [readArgs_letters_append named last, elim_giveAll?_append]
  simp only [elim_giveAll?_singleton]
  exact congrArg _ (funext read)

theorem readArgs_letterApart (last : setting.letter? = some letter) (alone : StandsAlone value)
    (settings : Settings) (rest : List String) :
    readArgs settings (String.ofList ['-', letter] :: value :: rest) =
      (settings.give? (.value setting value)).elim .mistake fun changed => readArgs changed rest := by
  rw [readArgs_letters (List.cons_ne_nil _ _) (Setting.head?_letter_ne last []), readLetters_setting last]
  exact readValue_of_standsAlone alone settings setting rest

/-- The value is attached to its letter, so the next argument is read for itself. -/
theorem readArgs_letterAttached {tail : List Char} (last : setting.letter? = some letter)
    (read : ∀ settings : Settings,
      readLetters settings (letter :: tail) = (settings.set? setting value).elim .mistake .done)
    (settings : Settings) (rest : List String) :
    readArgs settings (String.ofList ('-' :: letter :: tail) :: rest) =
      (settings.give? (.value setting value)).elim .mistake fun changed => readArgs changed rest := by
  rw [readArgs_letters (List.cons_ne_nil _ _) (Setting.head?_letter_ne last tail), read settings, Settings.give?]
  cases settings.set? setting value <;> rfl

end

/-- A part is read as what it gives, and the rest of the command line is read behind it. -/
theorem SpellsPart.readArgs_append {front : List String} {givens : List Given} (spells : SpellsPart front givens)
    (settings : Settings) (rest : List String) :
    readArgs settings (front ++ rest) =
      (settings.giveAll? givens).elim .mistake fun changed => readArgs changed rest := by
  cases spells with
  | @longApart setting value alone =>
    rw [elim_giveAll?_singleton, List.cons_append, readArgs_cons, ofString_long setting.isLongName_longName,
      readArgument, if_neg setting.isLongName_longName.2.2, Switch.ofLong?_longName_setting, setting.ofLong?_longName]
    exact readValue_of_standsAlone alone settings setting rest
  | longAttached setting value =>
    rw [elim_giveAll?_singleton, List.cons_append, readArgs_cons,
      ofString_longAttached setting.isLongName_longName, readArgument, setting.ofLong?_longName]
    rfl
  | longSwitch switch =>
    rw [elim_giveAll?_singleton, List.cons_append, readArgs_cons, ofString_long switch.isLongName_longName,
      readArgument, if_neg switch.isLongName_longName.2.2, switch.ofLong?_longName]
    rfl
  | @letters letters switches named present =>
    have read := readLetters_append named settings []
    rw [List.append_nil] at read
    rw [List.cons_append, readArgs_letters present named.head?_ne, read]
    cases settings.giveAll? (switches.map .on) <;> rfl
  | lettersApart named last alone =>
    exact readArgs_letters_value named last (readArgs_letterApart last alone · rest) settings
  | lettersEquals named last filled =>
    exact readArgs_letters_value named last (readArgs_letterAttached last (readLetters_equals last · _) · rest) settings
  | lettersAttached named last filled noEquals =>
    exact readArgs_letters_value named last
      (readArgs_letterAttached last (readLetters_attached last · filled noEquals) · rest) settings
  | @input path alone =>
    rw [elim_giveAll?_singleton, List.cons_append, readArgs_cons, ofString_plain alone]
    rfl

end

/-! ## A whole command line -/

theorem SpellsAll.readArgs_eq {args : List String} {givens : List Given} (spells : SpellsAll args givens)
    (settings : Settings) : readArgs settings args = (settings.giveAll? givens).elim .mistake .run := by
  induction spells generalizing settings with
  | nothing => rfl
  | part first _ ih =>
    -- what the first part gives is settled before the next argument is looked at
    rw [first.readArgs_append, elim_giveAll?_append]
    exact congrArg _ (funext ih)
  | divided path =>
    rw [elim_giveAll?_singleton, readArgs_cons, show Argument.ofString "--" = .divider from rfl, readArgument,
      readNames, Settings.give?]
    cases settings.setInput? path <;> rfl

theorem Settings.SpelledBy.ofArgs_eq {settings : Settings} {args : List String} (spelled : settings.SpelledBy args) :
    Request.ofArgs args = settings.request := by
  obtain ⟨givens, spells, givenBy⟩ := spelled
  rw [Request.ofArgs, spells.readArgs_eq, givenBy.giveAll?_eq, Settings.request]
  split <;> rfl

/-- Two command lines that spell the same settings come to the same, wherever they are run. They ask for just these
settings, unless a file is named by an empty name, which is a mistake in any spelling. -/
theorem run_eq_of_spelledBy {settings : Settings} {args others : List String} (spelled : settings.SpelledBy args)
    (otherSpelled : settings.SpelledBy others) :
    (∀ world, run args world = run others world) ∧
      (settings.IsNamed → Request.ofArgs args = .run settings) ∧
      (¬ settings.IsNamed → Request.ofArgs args = .mistake) := by
  refine ⟨fun world => ?_, fun named => ?_, fun nameless => ?_⟩
  · rw [run, run, spelled.ofArgs_eq, otherSpelled.ofArgs_eq]
  · rw [spelled.ofArgs_eq, Settings.request, if_pos named]
  · rw [spelled.ofArgs_eq, Settings.request, if_neg nameless]

/-- The container starts with a hyphen, and the input is one. -/
theorem run_eq_of_spelledBy_mixed :
    (∀ world, run ["-cvn=-x", "--json", "-", "--target", "sass"] world =
        run ["--verbose", "-tsass", "--namespace=-x", "--json", "-c", "--", "-"] world) ∧
      Request.ofArgs ["-cvn=-x", "--json", "-", "--target", "sass"] =
        .run { Settings.empty with
          input := some "-", target := some "sass", container := some "-x", closure := true, json := true,
          verbose := true } := by
  have first : SpellsAll ["-cvn=-x", "--json", "-", "--target", "sass"]
      [.on .closure, .on .verbose, .value .container "-x", .on .json, .input "-", .value .target "sass"] := by
    have together : AreLetters ['c', 'v'] [.closure, .verbose] := rfl
    have last : Setting.letter? .container = some 'n' := rfl
    have filled : ("-x" : String) ≠ "" := by decide
    exact .part (.lettersEquals together last filled)
      (.part (.longSwitch .json) (.part (.input (by decide)) (.part (.longApart .target (by decide)) .nothing)))
  have second : SpellsAll ["--verbose", "-tsass", "--namespace=-x", "--json", "-c", "--", "-"]
      [.on .verbose, .value .target "sass", .value .container "-x", .on .json, .on .closure, .input "-"] := by
    have none : AreLetters [] [] := rfl
    have one : AreLetters ['c'] [.closure] := rfl
    have last : Setting.letter? .target = some 't' := rfl
    have filled : ("sass" : String) ≠ "" := by decide
    exact .part (.longSwitch .verbose)
      (.part (.lettersAttached none last filled (by decide) (by decide))
        (.part (.longAttached .container "-x") (.part (.longSwitch .json)
          (.part (.letters one (by decide)) (.divided "-")))))
  have asks (given : Given) : Settings.Asks { Settings.empty with
      input := some "-", target := some "sass", container := some "-x", closure := true, json := true,
      verbose := true } given ↔ given ∈ [.on .closure, .on .verbose, .value .container "-x", .on .json, .input "-",
        .value .target "sass"] := by
    cases given with
    | value setting text => cases setting <;> simp [Settings.Asks, Settings.get?, Settings.empty, eq_comm]
    | on switch => cases switch <;> simp [Settings.Asks, Settings.isOn, Settings.empty]
    | input path => simp [Settings.Asks, eq_comm]
  have order : [.on .verbose, .value .target "sass", .value .container "-x", .on .json, .on .closure, .input "-"].Perm
      [.on .closure, .on .verbose, .value .container "-x", .on .json, .input "-", Given.value .target "sass"] := by
    decide
  obtain ⟨same, accepted, -⟩ := run_eq_of_spelledBy
    ⟨_, first, by decide, fun given => (asks given).symm⟩
    ⟨_, second, by decide, fun given => order.mem_iff.trans (asks given).symm⟩
  exact ⟨same, accepted (by decide)⟩

end Varsheet.Command
