import Varsheet.Decimal.Layout
import Varsheet.Fault
import Varsheet.Json.Number
import Varsheet.Json.Reader
import Varsheet.Options.Basic
import Varsheet.Text.Quoted

/-!
# Options from JSON

Options are written as an object with a member for each field that is set, or as an array of the fields
in their order. The text is read from left to right, and the first problem is the one that is reported.

* `Field` : the fields by name
* `Found` : what stands at the place of a value
* `Problem` : what can be wrong
* `Patch.ofJson` : the fields that a text sets
* `Options.ofJson` : the same, over the defaults
-/

namespace Varsheet

/-! ## Fields -/

/-- The fields of a record of options. -/
inductive Field where
  | symbol
  | container
  | target
  | quotes
  | closure
  | solve
  | tab
deriving DecidableEq, Repr

namespace Field

/-- All fields, in the order of the array form. -/
def all : List Field :=
  [.symbol, .container, .target, .quotes, .closure, .solve, .tab]

/-- The name of a field in the object form. -/
def name : Field → String
  | .symbol => "symbol"
  | .container => "namespace"
  | .target => "target"
  | .quotes => "quotes"
  | .closure => "closure"
  | .solve => "solve"
  | .tab => "tab"

/-- The field of a name. -/
def ofName? (name : String) : Option Field :=
  all.find? fun field => field.name = name

/-- The kind of value that a field takes, in words. -/
def expects : Field → String
  | .closure | .solve => "a boolean"
  | _ => "a string"

@[simp] theorem ofName?_name (field : Field) : ofName? field.name = some field := by
  cases field <;> decide

end Field

/-! ## Values and problems -/

/-- What stands at the place of a value. Of an array or an object only the start has been seen. -/
inductive Found where
  | null
  | boolean (value : Bool)
  | integer (value : Int)
  /-- A number that is no integer of 64 bits, as it is shown. -/
  | real (shown : String)
  | text (value : String)
  | sequence
  | map
deriving DecidableEq, Repr

namespace Found

/-- What was found, in words. -/
def describe : Found → String
  | .null => "null"
  | .boolean value => "boolean `" ++ (if value then "true" else "false") ++ "`"
  | .integer value => "integer `" ++ toString value ++ "`"
  | .real shown => "floating point `" ++ shown ++ "`"
  | .text value => "string " ++ Text.quote value
  | .sequence => "sequence"
  | .map => "map"

/-- The number that is written. One that is too large for a binary number is a mistake. -/
def ofNumeral? (numeral : Numeral) : Option Found :=
  match numeral.toInteger? with
  | some value => some (.integer value)
  | none => numeral.approximate?.map fun x => .real (Decimal.showFloat x)

/-- Takes a value off the front of a text, after white space; of an array or an object only the
bracket. -/
def take? (text : List Char) : Option (Found × List Char) :=
  match Json.skipBlank text with
  | '[' :: rest => some (.sequence, rest)
  | '\x7b' :: rest => some (.map, rest)
  | '"' :: body =>
    (Json.takeChars? .refused body).map fun taken => (.text (String.ofList taken.1), taken.2)
  | plain =>
    match Json.takePlain? plain with
    | some (.null, rest) => some (.null, rest)
    | some (.bool value, rest) => some (.boolean value, rest)
    | some (.number numeral, rest) => (ofNumeral? numeral).map fun found => (found, rest)
    | _ => none

end Found

theorem Found.length_take? {text rest : List Char} {found : Found}
    (h : Found.take? text = some (found, rest)) : rest.length < text.length := by
  unfold Found.take? at h
  have hle := Json.length_skipBlank_le text
  split at h
  · rename_i heq
    simp only [Option.some.injEq, Prod.mk.injEq] at h
    rw [← h.2]
    exact Json.length_lt_of_skipBlank heq
  · rename_i heq
    simp only [Option.some.injEq, Prod.mk.injEq] at h
    rw [← h.2]
    exact Json.length_lt_of_skipBlank heq
  · rename_i heq
    obtain ⟨taken, htaken, h⟩ := Option.map_eq_some_iff.1 h
    simp only [Prod.mk.injEq] at h
    rw [← h.2]
    exact Nat.lt_trans (Json.length_takeChars? htaken) (Json.length_lt_of_skipBlank heq)
  · split at h
    · rename_i heq
      simp only [Option.some.injEq, Prod.mk.injEq] at h
      have := Json.length_takePlain? heq
      rw [← h.2]
      omega
    · rename_i heq
      simp only [Option.some.injEq, Prod.mk.injEq] at h
      have := Json.length_takePlain? heq
      rw [← h.2]
      omega
    · rename_i heq
      obtain ⟨_, _, h⟩ := Option.map_eq_some_iff.1 h
      simp only [Prod.mk.injEq] at h
      have := Json.length_takePlain? heq
      rw [← h.2]
      omega
    · simp at h

/-- What can be wrong with a text that should set options. -/
inductive Problem where
  /-- The text is no JSON, or has too many elements. -/
  | malformed
  /-- A value of another kind than the place takes. -/
  | wrongType (found : Found) (expected : String)
  /-- A field that has been set before. -/
  | repeated (field : Field)
deriving DecidableEq, Repr

namespace Problem

/-- A problem in words. -/
def message : Problem → String
  | .malformed => "syntax error"
  | .wrongType found expected => "invalid type: " ++ found.describe ++ ", expected " ++ expected
  | .repeated field => "duplicate field `" ++ field.name ++ "`"

end Problem

/-! ## Reading -/

namespace Patch

/-- Sets a field to what was found. A null leaves the field as it is; a value of the wrong kind gives
nothing. -/
def set? (patch : Patch) (field : Field) (found : Found) : Option Patch :=
  match field, found with
  | _, .null => some patch
  | .symbol, .text value => some { patch with symbol := some value }
  | .container, .text value => some { patch with container := some value }
  | .target, .text value => some { patch with target := some (Target.ofName value) }
  | .quotes, .text value => some { patch with quotes := some value }
  | .closure, .boolean value => some { patch with closure := some value }
  | .solve, .boolean value => some { patch with solve := some value }
  | .tab, .text value => some { patch with tab := some value }
  | _, _ => none

/-- Takes a value off the front of a text and sets a field to it. -/
def takeField (patch : Patch) (field : Field) (text : List Char) :
    Except Problem (Patch × List Char) :=
  match Found.take? text with
  | none => .error .malformed
  | some (found, rest) =>
    match patch.set? field found with
    | some changed => .ok (changed, rest)
    | none => .error (.wrongType found field.expects)

/-- Takes any value off the front of a text. Its strings are not kept, so that half a surrogate pair
does no harm in them. -/
def skipValue (text : List Char) : Except Problem (List Char) :=
  match Json.takeValue? .replaced text with
  | some taken => .ok taken.rest
  | none => .error .malformed

/-- Takes a colon off the front of a text, after white space. -/
def takeColon (text : List Char) : Except Problem (List Char) :=
  match Json.skipBlank text with
  | ':' :: rest => .ok rest
  | _ => .error .malformed

/-- What the members so far have set, and which fields they have named. -/
structure Progress where
  patch : Patch
  given : List Field
deriving DecidableEq, Repr

/-- Takes the colon and the value of a member off the front of a text. Only the values of fields are
looked at. A field that has been named before, even as null, is a mistake whatever follows. -/
def takeMember (progress : Progress) (name : String) (text : List Char) :
    Except Problem (Progress × List Char) :=
  match Field.ofName? name with
  | some field =>
    if field ∈ progress.given then .error (.repeated field)
    else
      match takeColon text with
      | .error problem => .error problem
      | .ok value =>
        match progress.patch.takeField field value with
        | .error problem => .error problem
        | .ok (patch, rest) => .ok (⟨patch, field :: progress.given⟩, rest)
  | none =>
    match takeColon text with
    | .error problem => .error problem
    | .ok value =>
      match skipValue value with
      | .error problem => .error problem
      | .ok rest => .ok (progress, rest)

theorem length_takeField {patch changed : Patch} {field : Field} {text rest : List Char}
    (h : patch.takeField field text = .ok (changed, rest)) : rest.length < text.length := by
  unfold takeField at h
  split at h
  · simp at h
  · rename_i htake
    split at h
    · simp only [Except.ok.injEq, Prod.mk.injEq] at h
      rw [← h.2]
      exact Found.length_take? htake
    · simp at h

theorem length_skipValue {text rest : List Char} (h : skipValue text = .ok rest) :
    rest.length < text.length := by
  unfold skipValue at h
  split at h
  · rename_i taken _
    simp only [Except.ok.injEq] at h
    rw [← h]
    exact taken.shorter
  · simp at h

theorem length_takeColon {text rest : List Char} (h : takeColon text = .ok rest) :
    rest.length < text.length := by
  unfold takeColon at h
  split at h
  · rename_i hstart
    simp only [Except.ok.injEq] at h
    rw [← h]
    exact Json.length_lt_of_skipBlank hstart
  · simp at h

theorem length_takeMember {progress changed : Progress} {name : String} {text rest : List Char}
    (h : takeMember progress name text = .ok (changed, rest)) : rest.length < text.length := by
  unfold takeMember at h
  split at h
  · split at h
    · simp at h
    · split at h
      · simp at h
      · rename_i hcolon
        split at h
        · simp at h
        · rename_i hfield
          simp only [Except.ok.injEq, Prod.mk.injEq] at h
          rw [← h.2]
          exact Nat.lt_trans (length_takeField hfield) (length_takeColon hcolon)
  · split at h
    · simp at h
    · rename_i hcolon
      split at h
      · simp at h
      · rename_i hskip
        simp only [Except.ok.injEq, Prod.mk.injEq] at h
        rw [← h.2]
        exact Nat.lt_trans (length_skipValue hskip) (length_takeColon hcolon)

/-- Takes members off the front of a text up to the closing brace. -/
def takeMembers (progress : Progress) (text : List Char) : Except Problem (Patch × List Char) :=
  match hstart : Json.skipBlank text with
  | '"' :: body =>
    match hname : Json.takeChars? .refused body with
    | none => .error .malformed
    | some (name, afterName) =>
      match hmember : takeMember progress (String.ofList name) afterName with
      | .error problem => .error problem
      | .ok (changed, afterValue) =>
        match hnext : Json.skipBlank afterValue with
        | ',' :: next =>
          have : next.length < text.length :=
            Nat.lt_trans
              (Nat.lt_trans (Json.length_lt_of_skipBlank hnext) (length_takeMember hmember))
              (Nat.lt_trans (Json.length_takeChars? hname) (Json.length_lt_of_skipBlank hstart))
          takeMembers changed next
        | '\x7d' :: rest => .ok (changed.patch, rest)
        | _ => .error .malformed
  | _ => .error .malformed
termination_by text.length

/-- The fields that an object sets, from behind its opening brace. -/
def takeObject (text : List Char) : Except Problem (Patch × List Char) :=
  match Json.skipBlank text with
  | '\x7d' :: rest => .ok (.empty, rest)
  | _ => takeMembers ⟨.empty, []⟩ text

/-- Takes the further elements of an array off the front of a text, each with the comma before it, up
to the closing bracket. -/
def takeElements (patch : Patch) (fields : List Field) (text : List Char) :
    Except Problem (Patch × List Char) :=
  match Json.skipBlank text, fields with
  | ']' :: rest, _ => .ok (patch, rest)
  | ',' :: next, field :: others =>
    match patch.takeField field next with
    | .error problem => .error problem
    | .ok (changed, rest) => takeElements changed others rest
  | _, _ => .error .malformed

/-- The fields that an array sets, from behind its opening bracket. -/
def takeArray (text : List Char) : Except Problem (Patch × List Char) :=
  match Json.skipBlank text, Field.all with
  | ']' :: rest, _ => .ok (.empty, rest)
  | _, field :: others =>
    match Patch.empty.takeField field text with
    | .error problem => .error problem
    | .ok (changed, rest) => takeElements changed others rest
  | _, [] => .error .malformed

/-- The fields that a text sets. -/
def ofJson (text : String) : Except Problem Patch := do
  let (patch, rest) ←
    match Found.take? text.toList with
    | some (.map, rest) => takeObject rest
    | some (.sequence, rest) => takeArray rest
    | some (found, _) => .error (.wrongType found "struct PartialOptions")
    | none => .error .malformed
  if (Json.skipBlank rest).isEmpty then .ok patch else .error .malformed

end Patch

/-- The options that a text sets, over the defaults. -/
def Options.ofJson (text : String) : Except Fault Options :=
  match Patch.ofJson text with
  | .ok patch => .ok (.ofPatch patch)
  | .error problem => .error (.invalidOptions problem.message)

end Varsheet
