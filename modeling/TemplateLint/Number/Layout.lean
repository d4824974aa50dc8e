import TemplateLint.Number.Double
import TemplateLint.Number.Shortest

/-! How floating-point numbers are written. -/

namespace TemplateLint.Number

/-- The decisions of a notation: the exponents of the leading digit that are written in positional
form, the least number of exponent digits, and the names of what is not a number. -/
structure Layout where
  least : Int
  greatest : Int
  exponentDigits : Nat
  infinity : String
  nan : String

/-- Positional from `10 ^ -4` to below `10 ^ 16`, and names in lower case. -/
def Layout.plain : Layout := ⟨-4, 15, 2, "inf", "nan"⟩

/-- The layout of JSON documents. -/
def Layout.json : Layout := { Layout.plain with infinity := "Infinity", nan := "NaN" }

/-- The digits without trailing zeros, at least one. -/
def significantDigits (n : Nat) : List Char :=
  match ((Nat.toDigits 10 n).reverse.dropWhile (· == '0')).reverse with
  | [] => ['0']
  | ds => ds

/-- A point after the first `point` digits, with zeros as needed and a digit on each side. -/
def positional (ds : List Char) (point : Int) : List Char :=
  if point ≤ 0 then '0' :: '.' :: List.replicate (-point).toNat '0' ++ ds
  else
    let whole := point.toNat
    if ds.length ≤ whole then ds ++ List.replicate (whole - ds.length) '0' ++ ['.', '0']
    else ds.take whole ++ '.' :: ds.drop whole

def Layout.scientific (layout : Layout) (ds : List Char) (exponent : Int) : List Char :=
  let mantissa :=
    match ds with
    | [] => []
    | [d] => [d]
    | d :: rest => d :: '.' :: rest
  let written := Nat.toDigits 10 exponent.natAbs
  mantissa ++ 'e' :: (if exponent < 0 then '-' else '+') ::
    List.replicate (layout.exponentDigits - written.length) '0' ++ written

def Layout.magnitude (layout : Layout) (significand : Nat) (exponent : Int) : List Char :=
  if significand = 0 then ['0', '.', '0']
  else
    let decimal := shortest significand exponent
    let ds := significantDigits decimal.digits
    let point := (Nat.toDigits 10 decimal.digits).length + decimal.exponent
    if layout.least ≤ point - 1 ∧ point - 1 ≤ layout.greatest then positional ds point
    else layout.scientific ds (point - 1)

def Layout.write (layout : Layout) : Double → String
  | .finite negative significand exponent =>
    String.ofList ((if negative then ['-'] else []) ++ layout.magnitude significand exponent)
  | .infinite negative => (if negative then "-" else "") ++ layout.infinity
  | .nan => layout.nan

end TemplateLint.Number
