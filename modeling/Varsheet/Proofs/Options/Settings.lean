import Mathlib.Logic.Function.Basic
import Varsheet.Options.Loader

/-!
# What JSON values set

Which fields a JSON value sets, said about the value as a whole: a field is set by the member of its name or by
the element at its place, unless that is null. The loader comes to the same by taking one value after another.

* `Field.Accepts` : the values that a field can be given
* `Patch.ofValues` : the patch for values given to fields
* `Json.Sets` : the patch that a JSON value stands for
* `Patch.addAll?_eq_some_iff_sets`, `Patch.fill?_eq_some_iff_sets` : setting fields one after another
-/

namespace Varsheet

/-- The value is null or of the kind that the field takes. -/
def Field.Accepts (field : Field) : Json → Prop
  | .null => True
  | .bool _ => field = .closure ∨ field = .solve
  | .string _ => field ≠ .closure ∧ field ≠ .solve
  | _ => False

instance (field : Field) (value : Json) : Decidable (field.Accepts value) :=
  match value with
  | .null => inferInstanceAs (Decidable True)
  | .bool _ => inferInstanceAs (Decidable (field = .closure ∨ field = .solve))
  | .string _ => inferInstanceAs (Decidable (field ≠ .closure ∧ field ≠ .solve))
  | .number _ | .array _ | .object _ => inferInstanceAs (Decidable False)

def Json.text? : Json → Option String
  | .string text => some text
  | _ => none

def Json.truth? : Json → Option Bool
  | .bool truth => some truth
  | _ => none

/-- The patch for values given to fields. A field that is given null or nothing is not set. -/
def Patch.ofValues (given : Field → Option Json) : Patch where
  symbol := (given .symbol).bind Json.text?
  container := (given .container).bind Json.text?
  target := ((given .target).bind Json.text?).map Target.ofName
  quotes := (given .quotes).bind Json.text?
  closure := (given .closure).bind Json.truth?
  solve := (given .solve).bind Json.truth?
  tab := (given .tab).bind Json.text?

/-- The patch that a JSON value stands for. An object gives values to fields by their names, each at most once,
and may have members of other names; an array gives them in their order. -/
def Json.Sets : Json → Patch → Prop
  | .object members, patch =>
    (∀ field : Field, (members.map Prod.fst).count field.name ≤ 1) ∧
      (∀ (field : Field) (value : Json), (field.name, value) ∈ members → field.Accepts value) ∧
      patch = .ofValues fun field => members.lookup field.name
  | .array elements, patch =>
    elements.length ≤ 7 ∧ (∀ pair ∈ Field.all.zip elements, pair.1.Accepts pair.2) ∧
      patch = .ofValues fun field => (Field.all.zip elements).lookup field
  | _, _ => False

/-! ## Names of fields -/

theorem Field.ofName?_eq_some_iff {name : String} {field : Field} :
    Field.ofName? name = some field ↔ name = field.name := by
  constructor
  · intro found
    have named := List.find?_some found
    exact (of_decide_eq_true named).symm
  · rintro rfl
    exact Field.ofName?_name field

theorem Field.name_injective {field other : Field} (same : field.name = other.name) : field = other := by
  have found := Field.ofName?_name field
  rw [same, Field.ofName?_name] at found
  exact (Option.some.inj found).symm

theorem Field.ofName?_eq_none_iff {name : String} :
    Field.ofName? name = none ↔ ∀ field : Field, name ≠ field.name := by
  rw [Option.eq_none_iff_forall_ne_some]
  exact forall_congr' fun field => not_congr Field.ofName?_eq_some_iff

/-! ## One value -/

/-- What the loader finds at the place of a value that some field could take. -/
def Json.found? : Json → Option Found
  | .null => some .null
  | .bool truth => some (.boolean truth)
  | .string text => some (.text text)
  | _ => none

namespace Patch

def put? (patch : Patch) (field : Field) (value : Json) : Option Patch :=
  value.found?.bind (patch.set? field)

theorem put?_ofValues_eq_some_iff {given : Field → Option Json} {field : Field} {value : Json} {patch : Patch}
    (fresh : given field = none) :
    (ofValues given).put? field value = some patch ↔
      field.Accepts value ∧ patch = ofValues (Function.update given field (some value)) := by
  cases value with
  | null =>
    have same : ofValues (Function.update given field (some .null)) = ofValues given := by
      cases field <;> simp [ofValues, Function.update, Json.text?, Json.truth?, fresh]
    simp [put?, Json.found?, set?, Field.Accepts, same, eq_comm]
  | bool truth =>
    cases field <;>
      simp [put?, Json.found?, set?, Field.Accepts, ofValues, Function.update, Json.truth?, eq_comm]
  | string text =>
    cases field <;>
      simp [put?, Json.found?, set?, Field.Accepts, ofValues, Function.update, Json.text?, eq_comm]
  | number _ => simp [put?, Json.found?, Field.Accepts]
  | array _ => simp [put?, Json.found?, Field.Accepts]
  | object _ => simp [put?, Json.found?, Field.Accepts]

/-! ## The members of an object -/

/-- The progress after another member. -/
def Progress.add? (progress : Progress) (name : String) (value : Json) : Option Progress :=
  match Field.ofName? name with
  | none => some progress
  | some field =>
    if field ∈ progress.given then none
    else (progress.patch.put? field value).map fun patch => ⟨patch, field :: progress.given⟩

def Progress.addAll? (progress : Progress) : List (String × Json) → Option Progress
  | [] => some progress
  | (name, value) :: rest => (progress.add? name value).bind fun changed => addAll? changed rest

section

variable {given : Field → Option Json} {progress : Progress} {name : String} {value : Json}

/-- The progress knows the values that were given to fields so far. -/
structure Progress.Holds (progress : Progress) (given : Field → Option Json) : Prop where
  patch_eq : progress.patch = ofValues given
  mem_given_iff : ∀ field, field ∈ progress.given ↔ given field ≠ none

theorem Progress.holds_start : Progress.Holds ⟨.empty, []⟩ fun _ => none :=
  ⟨rfl, fun field => by simp⟩

theorem Progress.add?_of_unknown (progress : Progress) (value : Json)
    (unknown : ∀ field : Field, name ≠ field.name) : progress.add? name value = some progress := by
  rw [add?, Field.ofName?_eq_none_iff.2 unknown]

/-- A field can be given a value once, and only one of its own kind. -/
theorem Progress.Holds.add?_eq_some_iff (holds : progress.Holds given) {field : Field} {changed : Progress} :
    progress.add? field.name value = some changed ↔
      given field = none ∧ field.Accepts value ∧
        changed = ⟨ofValues (Function.update given field (some value)), field :: progress.given⟩ := by
  simp only [add?, Field.ofName?_name]
  by_cases fresh : given field = none
  · have notGiven : field ∉ progress.given := fun member => (holds.mem_given_iff field).1 member fresh
    simp only [if_neg notGiven, Option.map_eq_some_iff, holds.patch_eq, put?_ofValues_eq_some_iff fresh]
    constructor
    · rintro ⟨patch, ⟨accepts, rfl⟩, rfl⟩
      exact ⟨fresh, accepts, rfl⟩
    · rintro ⟨-, accepts, rfl⟩
      exact ⟨_, ⟨accepts, rfl⟩, rfl⟩
  · simp [fresh, (holds.mem_given_iff field).2 fresh]

theorem Progress.Holds.update (holds : progress.Holds given) (field : Field) (value : Json) :
    Progress.Holds ⟨ofValues (Function.update given field (some value)), field :: progress.given⟩
      (Function.update given field (some value)) := by
  refine ⟨rfl, fun other => ?_⟩
  by_cases same : other = field
  · simp [same]
  · simp [same, holds.mem_given_iff]

/-- How often the name of a field may still occur. -/
def allowance (given : Field → Option Json) (field : Field) : Nat :=
  if given field = none then 1 else 0

theorem count_le_allowance_cons_iff (field : Field) (value : Json) (names : List String) :
    (∀ other : Field, (field.name :: names).count other.name ≤ allowance given other) ↔
      given field = none ∧
        ∀ other : Field, names.count other.name ≤ allowance (Function.update given field (some value)) other := by
  constructor
  · intro bounded
    have here := bounded field
    rw [List.count_cons_self, allowance] at here
    have fresh : given field = none := by
      by_contra taken
      rw [if_neg taken] at here
      omega
    rw [if_pos fresh] at here
    refine ⟨fresh, fun other => ?_⟩
    by_cases same : other = field
    · rw [same]
      omega
    · have there := bounded other
      rw [List.count_cons_of_ne fun e => same (Field.name_injective e).symm] at there
      simpa [allowance, same] using there
  · rintro ⟨fresh, bounded⟩ other
    have there := bounded other
    by_cases same : other = field
    · rw [same] at there ⊢
      rw [List.count_cons_self, allowance, if_pos fresh]
      simp only [allowance, Function.update_self] at there
      exact Nat.succ_le_succ there
    · rw [List.count_cons_of_ne fun e => same (Field.name_injective e).symm]
      simpa [allowance, same] using there

/-- A value that has just been given to a field is the one that is found for it first. -/
theorem or_lookup_cons {κ : Type} [BEq κ] [LawfulBEq κ] {key : Field → κ}
    (distinct : ∀ {field other : Field}, key field = key other → field = other) {field : Field}
    {rest : List (κ × Json)} (fresh : given field = none) :
    (fun other => (Function.update given field (some value) other).or (rest.lookup (key other))) =
      fun other => (given other).or (((key field, value) :: rest).lookup (key other)) := by
  funext other
  by_cases same : other = field
  · simp [same, fresh]
  · have differs : (key other == key field) = false := by simpa using fun e => same (distinct e)
    simp [same, List.lookup_cons, differs]

theorem accepts_cons_iff {field : Field} {rest : List (String × Json)} :
    (∀ (other : Field) (found : Json), (other.name, found) ∈ (field.name, value) :: rest →
        other.Accepts found) ↔
      field.Accepts value ∧
        ∀ (other : Field) (found : Json), (other.name, found) ∈ rest → other.Accepts found := by
  constructor
  · intro accepts
    exact ⟨accepts field value List.mem_cons_self,
      fun other found member => accepts other found (List.mem_cons_of_mem _ member)⟩
  · rintro ⟨here, there⟩ other found member
    obtain same | member := List.mem_cons.1 member
    · obtain ⟨names, rfl⟩ := Prod.mk.inj same
      rw [Field.name_injective names]
      exact here
    · exact there other found member

/-- Members are taken one after another exactly if no field is given twice and every value suits its field. -/
theorem Progress.Holds.addAll?_eq_some_iff (holds : progress.Holds given) (members : List (String × Json))
    {patch : Patch} :
    (∃ done, progress.addAll? members = some done ∧ done.patch = patch) ↔
      (∀ field : Field, (members.map Prod.fst).count field.name ≤ allowance given field) ∧
      (∀ (field : Field) (value : Json), (field.name, value) ∈ members → field.Accepts value) ∧
      patch = ofValues fun field => (given field).or (members.lookup field.name) := by
  induction members generalizing progress given with
  | nil => simp [addAll?, holds.patch_eq, eq_comm]
  | cons member rest ih =>
    obtain ⟨name, value⟩ := member
    cases known : Field.ofName? name with
    | none =>
      have unknown := Field.ofName?_eq_none_iff.1 known
      have other (field : Field) : (field.name == name) = false := by simpa using (unknown field).symm
      simp only [addAll?, add?_of_unknown progress value unknown, Option.bind_some, ih holds]
      simp [List.lookup_cons, other, unknown, fun field : Field => (unknown field).symm]
    | some field =>
      obtain rfl := Field.ofName?_eq_some_iff.1 known
      rw [List.map_cons, count_le_allowance_cons_iff field value, accepts_cons_iff]
      simp only [addAll?, Option.bind_eq_some_iff, holds.add?_eq_some_iff]
      constructor
      · rintro ⟨done, ⟨changed, ⟨fresh, accepts, rfl⟩, added⟩, result⟩
        obtain ⟨counts, others, values⟩ := (ih (holds.update field value)).1 ⟨done, added, result⟩
        exact ⟨⟨fresh, counts⟩, ⟨accepts, others⟩, by rw [values, or_lookup_cons Field.name_injective fresh]⟩
      · rintro ⟨⟨fresh, counts⟩, ⟨accepts, others⟩, values⟩
        rw [← or_lookup_cons Field.name_injective fresh] at values
        obtain ⟨done, added, result⟩ := (ih (holds.update field value)).2 ⟨counts, others, values⟩
        exact ⟨done, ⟨_, ⟨fresh, accepts, rfl⟩, added⟩, result⟩

theorem addAll?_eq_some_iff_sets {members : List (String × Json)} {patch : Patch} :
    (∃ done, Progress.addAll? ⟨.empty, []⟩ members = some done ∧ done.patch = patch) ↔
      (Json.object members).Sets patch := by
  rw [Progress.holds_start.addAll?_eq_some_iff]
  simp [Json.Sets, allowance]

end

/-! ## The elements of an array -/

/-- Gives values to fields in their order. -/
def fill? (patch : Patch) : List Field → List Json → Option Patch
  | _, [] => some patch
  | [], _ :: _ => none
  | field :: fields, value :: values =>
    (patch.put? field value).bind fun changed => fill? changed fields values

theorem fill?_eq_some_iff {given : Field → Option Json} {fields : List Field} (distinct : fields.Nodup)
    (fresh : ∀ field ∈ fields, given field = none) (elements : List Json) {patch : Patch} :
    (ofValues given).fill? fields elements = some patch ↔
      elements.length ≤ fields.length ∧ (∀ pair ∈ fields.zip elements, pair.1.Accepts pair.2) ∧
        patch = ofValues fun field => (given field).or ((fields.zip elements).lookup field) := by
  induction fields generalizing given elements with
  | nil =>
    cases elements with
    | nil => simp [fill?, eq_comm]
    | cons value values => simp [fill?]
  | cons field fields ih =>
    cases elements with
    | nil => simp [fill?, eq_comm]
    | cons value values =>
      obtain ⟨notIn, distinct⟩ := List.nodup_cons.1 distinct
      have here : given field = none := fresh field List.mem_cons_self
      have others : ∀ other ∈ fields, Function.update given field (some value) other = none := by
        intro other member
        have differs : other ≠ field := fun same => notIn (same ▸ member)
        simpa [differs] using fresh other (List.mem_cons_of_mem _ member)
      simp only [fill?, Option.bind_eq_some_iff, put?_ofValues_eq_some_iff here]
      rw [List.zip_cons_cons, ← or_lookup_cons (fun same => same) here]
      constructor
      · rintro ⟨_, ⟨accepts, rfl⟩, filled⟩
        obtain ⟨short, acceptsOthers, result⟩ := (ih distinct others values).1 filled
        exact ⟨Nat.succ_le_succ short, List.forall_mem_cons.2 ⟨accepts, acceptsOthers⟩, result⟩
      · rintro ⟨short, accepts, result⟩
        obtain ⟨acceptsHere, acceptsOthers⟩ := List.forall_mem_cons.1 accepts
        exact ⟨_, ⟨acceptsHere, rfl⟩,
          (ih distinct others values).2 ⟨Nat.le_of_succ_le_succ short, acceptsOthers, result⟩⟩

theorem fill?_eq_some_iff_sets {elements : List Json} {patch : Patch} :
    Patch.empty.fill? Field.all elements = some patch ↔ (Json.array elements).Sets patch := by
  have start : Patch.empty = ofValues fun _ => none := rfl
  rw [start, fill?_eq_some_iff (by decide) (fun _ _ => rfl)]
  simp [Json.Sets, Field.all]

end Patch

end Varsheet
