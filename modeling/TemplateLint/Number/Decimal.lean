import TemplateLint.Number.Double
import TemplateLint.Text.Integer
import TemplateLint.Text.Scanner

/-! Numbers as documents write them, in seven-bit digits. -/

namespace TemplateLint.Number

open Text (Scanner)

variable {ε : Type}

/-- The value of a digit of a base up to sixteen. -/
def digitOf? (base : Nat) (c : Char) : Option Nat :=
  let value? :=
    if '0' ≤ c && c ≤ '9' then some (c.toNat - '0'.toNat)
    else if 'a' ≤ c && c ≤ 'f' then some (c.toNat - 'a'.toNat + 10)
    else if 'A' ≤ c && c ≤ 'F' then some (c.toNat - 'A'.toNat + 10)
    else none
  value?.filter (· < base)

def isDigitOf (base : Nat) (c : Char) : Bool := (digitOf? base c).isSome

def isDigit (c : Char) : Bool := '0' ≤ c && c ≤ '9'

def valueOf (base : Nat) (digits : List Char) : Nat :=
  Text.ofDigits base (digits.filterMap (digitOf? base))

/-- The longest run of digits at the front, and what follows it. In a grouped run one underscore
may stand between two digits; it is left out of the digits. -/
def digitRun (isDigit : Char → Bool) (grouped : Bool) : List Char → List Char × List Char
  | [] => ([], [])
  | c :: '_' :: rest =>
    if isDigit c then
      if grouped && rest.head?.any isDigit then
        let (digits, after) := digitRun isDigit grouped rest
        (c :: digits, after)
      else ([c], '_' :: rest)
    else ([], c :: '_' :: rest)
  | c :: rest =>
    if isDigit c then
      let (digits, after) := digitRun isDigit grouped rest
      (c :: digits, after)
    else ([], c :: rest)

/-- Takes a run of digits, which may be empty. -/
def digits (base : Nat) (grouped : Bool) : Scanner ε (List Char) := do
  let (run, after) := digitRun (isDigitOf base) grouped (← get)
  set after
  return run

/-- Takes a point and the digits after it, if there are digits after it. -/
def fraction? (grouped : Bool) : Scanner ε (Option (List Char)) := do
  match ← get with
  | '.' :: rest =>
    match digitRun isDigit grouped rest with
    | ([], _) => return none
    | (run, after) => set after; return some run
  | _ => return none

/-- Takes a power of ten: the letter, a sign or none, and digits. -/
def exponent? (grouped : Bool) : Scanner ε (Option Int) := do
  match ← get with
  | letter :: rest =>
    if letter = 'e' || letter = 'E' then
      let (negative, unsigned) :=
        match rest with
        | '-' :: unsigned => (true, unsigned)
        | '+' :: unsigned => (false, unsigned)
        | unsigned => (false, unsigned)
      match digitRun isDigit grouped unsigned with
      | ([], _) => return none
      | (run, after) =>
        set after
        let magnitude : Nat := valueOf 10 run
        return some (if negative then -magnitude else magnitude)
    else return none
  | [] => return none

/-- An integer of the digits, unless there are too many: then their number. -/
def integer (negative : Bool) (digits : List Char) : Except Nat Int :=
  if digits.length ≤ Text.digitLimit then
    let magnitude : Nat := valueOf 10 digits
    .ok (if negative then -magnitude else magnitude)
  else .error digits.length

/-- The complaint about an integer of too many digits. -/
def tooManyDigits (count : Nat) : String :=
  "Exceeds the limit (" ++ toString Text.digitLimit
    ++ " digits) for integer string conversion: value has " ++ toString count
    ++ " digits; use sys.set_int_max_str_digits() to increase the limit"

/-- The complaint about an integer of too many digits to be written. -/
def tooLongToWrite : String :=
  "Exceeds the limit (" ++ toString Text.digitLimit
    ++ " digits) for integer string conversion; use sys.set_int_max_str_digits() to increase the limit"

/-- The number with these digits before and after the point and this power of ten. -/
def toDouble (negative : Bool) (whole fraction : List Char) (exponent : Int) : Double :=
  Double.ofDecimal negative (valueOf 10 (whole ++ fraction)) (exponent - fraction.length)

end TemplateLint.Number
