import TemplateLint.Number.Double
import TemplateLint.Number.Shortest

/-!
Whole numbers in the notations of measured ones: with places after a point, with a power of ten, or
with a number of leading digits.
-/

namespace TemplateLint.Number

/-- Leading digits of a number, and the power of ten of the first of them. -/
structure Leading where
  digits : List Char
  exponent : Nat
  deriving DecidableEq, Repr

/-- The number to the nearest with `count` digits; a tie goes to the even neighbour. A number of
fewer digits is filled up with zeros. -/
def leading (count n : Nat) : Leading :=
  let length := digitCount n
  if length ≤ count then
    ⟨Nat.toDigits 10 n ++ List.replicate (count - length) '0', length - 1⟩
  else
    let rounded := Double.roundQuotient n (Nat.pow 10 (length - count))
    if rounded = Nat.pow 10 count then ⟨'1' :: List.replicate (count - 1) '0', length⟩
    else ⟨Nat.toDigits 10 rounded, length - 1⟩

/-- Digits before and after a point; a point with no digits after it is left out unless it is kept. -/
def pointed (keepPoint : Bool) (whole fraction : List Char) : List Char :=
  if fraction.isEmpty && !keepPoint then whole else whole ++ '.' :: fraction

/-- A power of ten, with two digits or more. -/
def powerOfTen (exponent : Nat) : List Char :=
  let digits := Nat.toDigits 10 exponent
  'e' :: '+' :: List.replicate (2 - digits.length) '0' ++ digits

def withPlaces (keepPoint : Bool) (places n : Nat) : List Char :=
  pointed keepPoint (Nat.toDigits 10 n) (List.replicate places '0')

/-- One digit before the point, `places` after it, and the power of ten. -/
def withPower (keepPoint : Bool) (places n : Nat) : List Char :=
  let l := leading (places + 1) n
  pointed keepPoint (l.digits.take 1) (l.digits.drop 1) ++ powerOfTen l.exponent

/-- At most `count` leading digits, at least one: with a power of ten only when the number has more
digits than that. Zeros at the end of the fraction go with the point, unless it is kept. -/
def withDigits (keepPoint : Bool) (count n : Nat) : List Char :=
  let count := max count 1
  let l := leading count n
  let whole := if l.exponent < count then l.exponent + 1 else 1
  let fraction := l.digits.drop whole
  let fraction := if keepPoint then fraction else (fraction.reverse.dropWhile (· == '0')).reverse
  pointed keepPoint (l.digits.take whole) fraction
    ++ if l.exponent < count then [] else powerOfTen l.exponent

end TemplateLint.Number
