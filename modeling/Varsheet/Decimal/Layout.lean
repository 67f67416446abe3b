import Varsheet.Decimal.Shortest

/-!
# Layout of decimals

* `Decimal.layout` : a decimal as text, positional near one and with an exponent far from it
* `Decimal.showFloat` : a binary number as text
-/

namespace Varsheet.Decimal

/-- An exponent with its mark and its sign. -/
def exponentText (exponent : Int) : String :=
  (if exponent < 0 then "e-" else "e+") ++ String.ofList (digitsOf exponent.natAbs)

/-- A decimal as text. Numbers from a hundred thousandth up to sixteen places before the point are
written out, with a zero after the point of whole numbers; all others get an exponent. -/
def layout (decimal : Decimal) : String :=
  let digits := decimal.digits
  if 0 ≤ decimal.exponent ∧ decimal.exponent < 16 then
    let places := decimal.exponent.toNat + 1
    let whole := digits.take places ++ List.replicate (places - digits.length) '0'
    let fraction := digits.drop places
    String.ofList (whole ++ '.' :: (if fraction.isEmpty then ['0'] else fraction))
  else if -5 ≤ decimal.exponent ∧ decimal.exponent < 0 then
    String.ofList ('0' :: '.' :: (List.replicate ((-decimal.exponent).toNat - 1) '0' ++ digits))
  else
    let fraction := digits.drop 1
    String.ofList (digits.take 1 ++ (if fraction.isEmpty then [] else '.' :: fraction)) ++
      exponentText decimal.exponent

/-- A finite binary number of 64 bits as text, with as few digits as keep it apart from all others. -/
def showFloat (x : Float) : String :=
  let negative := x.toBits.toNat / Nat.pow 2 63 % 2 == 1
  let size := x.abs
  (if negative then "-" else "") ++ (if size == 0 then "0.0" else (ofFloat size).layout)

end Varsheet.Decimal
