/-!
# Shortest decimals

The decimal number with the fewest digits that still rounds to a given binary number, found by exact
arithmetic on natural numbers.

* `Decimal` : digits and the place of the first one
* `Span` : the numbers that round to a binary number
* `Span.shortest` : the decimal with the fewest digits among them, the nearest of these
* `Decimal.ofFloat` : the shortest decimal of a positive binary number
-/

namespace Varsheet

/-- The number whose first digit stands for that digit times ten to the power `exponent`. -/
structure Decimal where
  digits : List Char
  exponent : Int
deriving DecidableEq, Repr

namespace Decimal

/-- The decimal digits of a natural number. -/
def digitsOf (n : Nat) : List Char :=
  Nat.toDigits 10 n

/-- A number `value / unit` together with the ends of the numbers that round to it, `lower / unit` and
`upper / unit`. The ends belong to these numbers when `closed` holds. -/
structure Span where
  lower : Nat
  value : Nat
  upper : Nat
  unit : Nat
  closed : Bool
deriving DecidableEq, Repr

namespace Span

/-- The numbers that round to `significand * 2 ^ exponent`. Below a power of two the next number is
half as far away, unless it is the least one. -/
def ofBinary (significand : Nat) (exponent : Int) (halfGap : Bool) : Span :=
  let up := Nat.pow 2 exponent.toNat
  let lower := if halfGap then 4 * significand - 1 else 4 * significand - 2
  ⟨lower * up, 4 * significand * up, (4 * significand + 2) * up, 4 * Nat.pow 2 (-exponent).toNat,
    significand % 2 == 0⟩

/-- The place of the first digit of the value. -/
def magnitude (span : Span) : Int :=
  let guess : Int := (digitsOf span.value).length - (digitsOf span.unit).length
  if span.unit * Nat.pow 10 guess.toNat ≤ span.value * Nat.pow 10 (-guess).toNat then guess else guess - 1

/-- Whether `count * 10 ^ place` rounds to the value. -/
def admits (span : Span) (place : Int) (count : Nat) : Bool :=
  let number := count * Nat.pow 10 place.toNat * span.unit
  let lower := span.lower * Nat.pow 10 (-place).toNat
  let upper := span.upper * Nat.pow 10 (-place).toNat
  if span.closed then lower ≤ number && number ≤ upper else lower < number && number < upper

/-- The multiple of `10 ^ place` next to the value on either side that rounds to it, the nearer one if
both do, and of two equally near ones the even one. -/
def neighbour? (span : Span) (place : Int) : Option Nat :=
  let step := Nat.pow 10 place.toNat * span.unit
  let value := span.value * Nat.pow 10 (-place).toNat
  let below := value / step
  let short := value - below * step
  match span.admits place below, span.admits place (below + 1) with
  | true, true =>
    if 2 * short < step ∨ (2 * short = step ∧ below % 2 = 0) then some below else some (below + 1)
  | true, false => some below
  | false, true => some (below + 1)
  | false, false => none

/-- The decimal with the fewest digits that rounds to the value. Seventeen digits are always
enough. -/
def shortest (span : Span) : Decimal :=
  let found := (List.range 17).findSome? fun (more : Nat) =>
    let place := span.magnitude - (more : Int)
    (span.neighbour? place).map fun count => (count, place)
  match found with
  | some (count, place) =>
    let digits := digitsOf count
    ⟨(digits.reverse.dropWhile (· = '0')).reverse, place + digits.length - 1⟩
  | none => ⟨digitsOf span.value, 0⟩

end Span

/-- The shortest decimal of a positive finite binary number of 64 bits. -/
def ofFloat (x : Float) : Decimal :=
  let bits : Nat := x.toBits.toNat
  let fraction : Nat := bits % Nat.pow 2 52
  let scale : Nat := bits / Nat.pow 2 52 % Nat.pow 2 11
  if scale = 0 then (Span.ofBinary fraction (-1074) false).shortest
  else
    (Span.ofBinary (Nat.pow 2 52 + fraction) ((scale : Int) - 1075) (fraction = 0 ∧ scale ≠ 1)).shortest

end Decimal

end Varsheet
