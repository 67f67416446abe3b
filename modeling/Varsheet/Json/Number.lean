import Varsheet.Json.Basic

/-!
# What a written number stands for

* `Numeral.toInteger?` : a whole number of 64 bits
* `Numeral.approximate?` : a binary number near it
-/

namespace Varsheet.Numeral

/-- The value of a decimal digit. -/
def digitValue (digit : Char) : Nat :=
  digit.toNat - 48

/-- The value of a row of digits. -/
def digitsValue (digits : List Char) : Nat :=
  digits.foldl (fun value digit => value * 10 + digitValue digit) 0

/-- The whole number that is written, if it has neither point nor exponent and fits into 64 bits. A
number with a minus sign has to be below zero, and one bit then goes to the sign. -/
def toInteger? (numeral : Numeral) : Option Int :=
  match numeral.fraction, numeral.exponent with
  | none, none =>
    let size := digitsValue numeral.whole
    if numeral.negative then
      if 0 < size ∧ size ≤ Nat.pow 2 63 then some (-(size : Int)) else none
    else if size < Nat.pow 2 64 then some size
    else none
  | _, _ => none

/-- Takes digits into a significand of 64 bits up to the first one that does not fit. Gives the
significand, the number of digits taken and the number of digits left. -/
def gather (significand : Nat) : List Char → Nat × Nat × Nat
  | [] => (significand, 0, 0)
  | digit :: digits =>
    let next := significand * 10 + digitValue digit
    if next < Nat.pow 2 64 then
      let (value, taken, left) := gather next digits
      (value, taken + 1, left)
    else (significand, 0, digits.length + 1)

/-- A power of ten as a binary number. -/
def tenTo (power : Nat) : Float :=
  Float.ofScientific 1 false power

/-- A number divided by a power of ten, in steps of at most 308 places. -/
def shiftDown (x : Float) (places : Nat) : Float :=
  if places ≤ 308 then x / tenTo places
  else if x == 0 then x
  else shiftDown (x / tenTo 308) (places - 308)
termination_by places

/-- A number multiplied by a power of ten, unless the result is too large. -/
def shiftUp? (x : Float) (places : Nat) : Option Float :=
  if places ≤ 308 then
    let shifted := x * tenTo places
    if shifted.isInf then none else some shifted
  else if x == 0 then some x
  else none

/-- A binary number near the written one: the leading digits that fit into 64 bits are rounded first,
then the power of ten is applied. Numbers that are too large have none. -/
def approximate? (numeral : Numeral) : Option Float :=
  let (whole, _, skipped) := gather 0 numeral.whole
  let (significand, places, _) := gather whole (numeral.fraction.getD [])
  let written : Int :=
    match numeral.exponent with
    | none => 0
    | some (negative, digits) =>
      if negative then -(digitsValue digits : Int) else (digitsValue digits : Int)
  let exponent : Int := (skipped : Int) - (places : Int) + written
  let start := (UInt64.ofNat significand).toFloat
  let size := if exponent < 0 then some (shiftDown start exponent.natAbs)
    else shiftUp? start exponent.natAbs
  size.map fun x => if numeral.negative then -x else x

end Varsheet.Numeral
