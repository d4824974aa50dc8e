import TemplateLint.Number.Whole
import TemplateLint.Text.Quoted

/-! The fields of a log format: how a text or a number is written in one. -/

namespace TemplateLint.Log

/-- What a field shows. -/
inductive Shown where
  | text (s : String)
  | number (n : Int)
  /-- Neither text nor number, with a name to be shown by. -/
  | thing (name : String)
  deriving DecidableEq, Repr

namespace Shown

def plain : Shown → List Char
  | text s | thing s => s.toList
  | number n => (toString n).toList

/-- A text stands in quotes. -/
def quoted : Shown → List Char
  | text s => (Text.quoted s).toList
  | v => v.plain

/-- The character of a number, or of a text that is one character. -/
def char? : Shown → Option Char
  | text s => match s.toList with
    | [c] => some c
    | _ => none
  | number n => if 0 ≤ n ∧ n.toNat.isValidChar then some (Char.ofNat n.toNat) else none
  | _ => none

end Shown

inductive Conversion where
  | plain
  | quoted
  | sevenBitQuoted
  | character
  | decimal
  | octal
  | hexadecimal
  | power
  | places
  | digits
  deriving DecidableEq, Repr

def Conversion.ofLetter? : Char → Option Conversion
  | 's' => some plain
  | 'r' => some quoted
  | 'a' => some sevenBitQuoted
  | 'c' => some character
  | 'd' | 'i' | 'u' => some decimal
  | 'o' => some octal
  | 'x' | 'X' => some hexadecimal
  | 'e' | 'E' => some power
  | 'f' | 'F' => some places
  | 'g' | 'G' => some digits
  | _ => none

/-- A field without a name shows the record itself. -/
structure Field where
  name : Option String
  flags : List Char
  width : Nat
  precision : Option Nat
  conversion : Conversion
  /-- Whether letters among the digits are capitals. -/
  upper : Bool
  deriving DecidableEq, Repr

namespace Field

def hasFlag (f : Field) (flag : Char) : Bool := f.flags.contains flag

/-- Fills up to the least width, at the right when the minus flag is given. -/
def align (f : Field) (s : List Char) : List Char :=
  let filler := List.replicate (f.width - s.length) ' '
  if f.hasFlag '-' then s ++ filler else filler ++ s

/-- Fills up a number to the least width; the zero flag puts zeros after its sign and mark. -/
def alignNumber (f : Field) (lead digits : List Char) : List Char :=
  if f.hasFlag '0' && !f.hasFlag '-' then
    lead ++ List.replicate (f.width - lead.length - digits.length) '0' ++ digits
  else f.align (lead ++ digits)

def sign (f : Field) (n : Int) : List Char :=
  if n < 0 then ['-'] else if f.hasFlag '+' then ['+'] else if f.hasFlag ' ' then [' '] else []

/-- The text cut to the precision. -/
def cut (f : Field) (s : List Char) : List Char :=
  f.precision.elim s (s.take ·)

/-- An integer in a base, with no fewer digits than the precision. -/
def inBase (f : Field) (base : Nat) (mark : List Char) (n : Int) : List Char :=
  let digits := Nat.toDigits base n.natAbs
  let digits := List.replicate (f.precision.getD 0 - digits.length) '0' ++ digits
  f.alignNumber (f.sign n ++ if f.hasFlag '#' then mark else []) digits

/-- A number as a measured one, of 53 bits; none when it is too large for that. -/
def measured? (f : Field) (write : Bool → Nat → Nat → List Char) (n : Int) : Option (List Char) := do
  let nearest ← (Double.ofQuotient false n.natAbs 1).truncate?
  return f.alignNumber (f.sign n) (write (f.hasFlag '#') (f.precision.getD 6) nearest.natAbs)

def number? (f : Field) (n : Int) : Option (List Char) :=
  match f.conversion with
  | .decimal => some (f.inBase 10 [] n)
  | .octal => some (f.inBase 8 ['0', 'o'] n)
  | .hexadecimal => some (f.inBase 16 ['0', 'x'] n)
  | .power => f.measured? Number.withPower n
  | .places => f.measured? Number.withPlaces n
  | .digits => f.measured? Number.withDigits n
  | _ => none

/-- What is written for a value; none when the conversion does not take it. -/
def write? (f : Field) (v : Shown) : Option (List Char) :=
  match f.conversion with
  | .plain => some (f.align (f.cut v.plain))
  | .quoted => some (f.align (f.cut v.quoted))
  | .sevenBitQuoted => some (f.align (f.cut (Text.sevenBit v.quoted)))
  | .character => v.char?.map fun c => f.align [c]
  | _ =>
    match v with
    | .number n => (f.number? n).map fun s => if f.upper then s.map Char.toUpper else s
    | _ => none

end Field

end TemplateLint.Log
