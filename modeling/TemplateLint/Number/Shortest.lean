import TemplateLint.Number.Double

/-!
The shortest decimal of a binary number: the fewest digits that read back as the number, and of
those with that many digits the nearest.
-/

namespace TemplateLint.Number

/-- A number and the ends of the interval that rounds to it, over a common denominator. The ends
belong to the interval when `closed` holds. -/
structure Interval where
  low : Nat
  value : Nat
  high : Nat
  den : Nat
  closed : Bool

/-- The interval of `significand · 2 ^ exponent`. Below a power of two the spacing is halved. -/
def Interval.around (significand : Nat) (exponent : Int) : Interval :=
  let low := 4 * significand - if significand = Double.leastNormal ∧ Double.leastExponent < exponent then 1 else 2
  let value := 4 * significand
  let high := 4 * significand + 2
  let closed := significand % 2 == 0
  let shift := exponent - 2
  if 0 ≤ shift then
    let unit := Nat.pow 2 shift.toNat
    ⟨low * unit, value * unit, high * unit, 1, closed⟩
  else ⟨low, value, high, Nat.pow 2 (-shift).toNat, closed⟩

/-- The interval in units of `10 ^ exponent`. -/
def Interval.inTens (i : Interval) (exponent : Int) : Interval :=
  if 0 ≤ exponent then { i with den := i.den * Nat.pow 10 exponent.toNat }
  else
    let unit := Nat.pow 10 (-exponent).toNat
    { i with low := i.low * unit, value := i.value * unit, high := i.high * unit }

def Interval.holds (i : Interval) (n : Nat) : Bool :=
  let n := n * i.den
  if i.closed then i.low ≤ n && n ≤ i.high else i.low < n && n < i.high

/-- The integer of the interval nearest to its value; a tie goes to the even neighbour. -/
def Interval.nearest? (i : Interval) : Option Nat :=
  let below := i.value / i.den
  let above := below + 1
  match i.holds below, i.holds above with
  | false, false => none
  | true, false => some below
  | false, true => some above
  | true, true =>
    let twice := 2 * (i.value % i.den)
    some (if twice < i.den ∨ (twice = i.den ∧ below % 2 = 0) then below else above)

def digitCount (n : Nat) : Nat :=
  (Nat.toDigits 10 n).length

/-- The exponent `k` with `10 ^ (k - 1) ≤ value < 10 ^ k`. -/
def Interval.magnitude (i : Interval) : Int :=
  if i.den ≤ i.value then digitCount (i.value / i.den)
  else 1 - (digitCount ((i.den - 1) / i.value) : Int)

/-- A number of digits and a power of ten: `digits · 10 ^ exponent`. -/
structure Decimal where
  digits : Nat
  exponent : Int

/-- Tries one digit, then two, and so on; seventeen always suffice. -/
def shortest (significand : Nat) (exponent : Int) : Decimal :=
  let i := Interval.around significand exponent
  let k := i.magnitude
  let tried := (List.range 17).findSome? fun (count : Nat) =>
    let e := k - count - 1
    ((i.inTens e).nearest?).map (Decimal.mk · e)
  tried.getD ⟨0, 0⟩

end TemplateLint.Number
