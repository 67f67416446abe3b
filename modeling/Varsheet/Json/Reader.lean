import Varsheet.Json.Lexeme

/-!
# Reading JSON

A strict reader: white space may stand between the pieces, and nothing else than the grammar is
accepted. Members and elements keep their order.

* `Taken` : a value off the front of a text
* `takeValue?` : a value of any kind, after white space
* `parse?` : a text that is one value
-/

namespace Varsheet.Json

/-- Something that was taken off the front of a text, and what is left. -/
structure Taken (α : Type) (text : List Char) where
  value : α
  rest : List Char
  shorter : rest.length < text.length

/-- The same, seen from further up in the text. -/
def Taken.map {α β : Type} {text whole : List Char} (taken : Taken α text) (f : α → β)
    (h : text.length ≤ whole.length) : Taken β whole :=
  ⟨f taken.value, taken.rest, Nat.lt_of_lt_of_le taken.shorter h⟩

/-- What was taken and what is left, without the bound. -/
def Taken.pair {α : Type} {text : List Char} (taken : Taken α text) : α × List Char :=
  (taken.value, taken.rest)

/-- A word or a number. -/
def takePlain? (text : List Char) : Option (Json × List Char) :=
  match takeWord? text with
  | some taken => some taken
  | none => (takeNumeral? text).map fun taken => (.number taken.1, taken.2)

theorem length_takePlain? {text rest : List Char} {value : Json}
    (h : takePlain? text = some (value, rest)) : rest.length < text.length := by
  unfold takePlain? at h
  split at h
  · rename_i hword
    simp only [Option.some.injEq] at h
    subst h
    exact length_takeWord? hword
  · obtain ⟨taken, htaken, h⟩ := Option.map_eq_some_iff.1 h
    simp only [Prod.mk.injEq] at h
    rw [← h.2]
    exact length_takeNumeral? htaken

mutual

/-- A value, after white space. -/
def takeValue? (halves : Halves) (text : List Char) : Option (Taken Json text) :=
  match hstart : skipBlank text with
  | '"' :: body =>
    match hchars : takeChars? halves body with
    | none => none
    | some (chars, rest) =>
      some ⟨.string (String.ofList chars), rest,
        Nat.lt_trans (length_takeChars? hchars) (length_lt_of_skipBlank hstart)⟩
  | '[' :: body =>
    have hbody := length_lt_of_skipBlank hstart
    match hend : skipBlank body with
    | ']' :: rest => some ⟨.array [], rest, Nat.lt_trans (length_lt_of_skipBlank hend) hbody⟩
    | _ => (takeElements? halves body).map fun taken => taken.map .array (Nat.le_of_lt hbody)
  | '\x7b' :: body =>
    have hbody := length_lt_of_skipBlank hstart
    match hend : skipBlank body with
    | '\x7d' :: rest => some ⟨.object [], rest, Nat.lt_trans (length_lt_of_skipBlank hend) hbody⟩
    | _ => (takeMembers? halves body).map fun taken => taken.map .object (Nat.le_of_lt hbody)
  | plain =>
    match hplain : takePlain? plain with
    | none => none
    | some (value, rest) =>
      some ⟨value, rest, by
        have := length_takePlain? hplain
        have := length_skipBlank_le text
        rw [hstart] at this
        omega⟩
termination_by (text.length, 0)
decreasing_by
  · exact Prod.Lex.left _ _ hbody
  · exact Prod.Lex.left _ _ hbody

/-- The elements of an array that has any, up to its closing bracket. -/
def takeElements? (halves : Halves) (text : List Char) : Option (Taken (List Json) text) :=
  match takeValue? halves text with
  | none => none
  | some ⟨value, afterValue, hvalue⟩ =>
    match hnext : skipBlank afterValue with
    | ',' :: next =>
      have hlt := Nat.lt_trans (length_lt_of_skipBlank hnext) hvalue
      (takeElements? halves next).map fun taken => taken.map (value :: ·) (Nat.le_of_lt hlt)
    | ']' :: rest => some ⟨[value], rest, Nat.lt_trans (length_lt_of_skipBlank hnext) hvalue⟩
    | _ => none
termination_by (text.length, 1)
decreasing_by
  · exact Prod.Lex.right _ (by decide)
  · exact Prod.Lex.left _ _ hlt

/-- The members of an object that has any, up to its closing brace. -/
def takeMembers? (halves : Halves) (text : List Char) :
    Option (Taken (List (String × Json)) text) :=
  match hstart : skipBlank text with
  | '"' :: body =>
    match hname : takeChars? halves body with
    | none => none
    | some (name, afterName) =>
      match hcolon : skipBlank afterName with
      | ':' :: afterColon =>
        have hlt : afterColon.length < text.length :=
          Nat.lt_trans (Nat.lt_trans (length_lt_of_skipBlank hcolon) (length_takeChars? hname))
            (length_lt_of_skipBlank hstart)
        match takeValue? halves afterColon with
        | none => none
        | some ⟨value, afterValue, hvalue⟩ =>
          match hnext : skipBlank afterValue with
          | ',' :: next =>
            have hnextlt := Nat.lt_trans (Nat.lt_trans (length_lt_of_skipBlank hnext) hvalue) hlt
            (takeMembers? halves next).map fun taken =>
              taken.map ((String.ofList name, value) :: ·) (Nat.le_of_lt hnextlt)
          | '\x7d' :: rest =>
            some ⟨[(String.ofList name, value)], rest,
              Nat.lt_trans (Nat.lt_trans (length_lt_of_skipBlank hnext) hvalue) hlt⟩
          | _ => none
      | _ => none
  | _ => none
termination_by (text.length, 0)
decreasing_by
  · exact Prod.Lex.left _ _ hlt
  · exact Prod.Lex.left _ _ hnextlt

end

/-- A text that is one value with nothing but white space around it. Half a surrogate pair is a
mistake. -/
def parse? (text : String) : Option Json :=
  match takeValue? .refused text.toList with
  | some taken => if (skipBlank taken.rest).isEmpty then some taken.value else none
  | none => none

end Varsheet.Json
