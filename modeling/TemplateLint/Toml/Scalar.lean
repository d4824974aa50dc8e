import TemplateLint.Toml.Moment
import TemplateLint.Value.Basic

/-! Numbers, moments and truth values at the front of a text. -/

namespace TemplateLint.Toml

open Text (Scanner)

inductive Fault where
  | malformed
  | tooManyDigits (count : Nat)
  deriving DecidableEq, Repr

def words : List (List Char × Value) :=
  [("true".toList, .bool true), ("false".toList, .bool false)]

def specialNumbers : List (List Char × Value) :=
  [("inf".toList, .float (.infinite false)), ("+inf".toList, .float (.infinite false)),
    ("-inf".toList, .float (.infinite true)), ("nan".toList, .float .nan),
    ("+nan".toList, .float .nan), ("-nan".toList, .float .nan)]

/-- Takes the first spelling of a list that the text starts with. -/
def oneOf? (spellings : List (List Char × Value)) : Scanner Fault (Option Value) := do
  let s ← get
  match spellings.find? fun (spelling, _) => spelling.isPrefixOf s with
  | some (spelling, value) => set (s.drop spelling.length); return some value
  | none => return none

/-- Takes a moment, which must be a day of the calendar. -/
def moment? : Scanner Fault (Option Value) := do
  match moment (← get) with
  | none => return none
  | some (m, rest) =>
    unless isValid m do throw .malformed
    set rest
    return some (.moment m)

/-- The base that a letter after a zero stands for. -/
def base? : Char → Option Nat
  | 'x' => some 16
  | 'o' => some 8
  | 'b' => some 2
  | _ => none

/-- Takes an integer of base two, eight or sixteen. -/
def based? : Scanner Fault (Option Value) := do
  match ← get with
  | '0' :: letter :: rest =>
    match base? letter with
    | none => return none
    | some base =>
      match Number.digitRun (Number.isDigitOf base) true rest with
      | ([], _) => return none
      | (digits, after) => set after; return some (.int (Number.valueOf base digits))
  | _ => return none

/-- The sign and whole digits at the front of a decimal number: zero stands alone. -/
def whole? (s : List Char) : Option (Bool × List Char × List Char) :=
  let (negative, unsigned) :=
    match s with
    | '-' :: rest => (true, rest)
    | '+' :: rest => (false, rest)
    | rest => (false, rest)
  match unsigned with
  | '0' :: rest => some (negative, ['0'], rest)
  | rest =>
    match Number.digitRun Number.isDigit true rest with
    | ([], _) => none
    | (digits, after) => some (negative, digits, after)

/-- Takes a decimal number. It is an integer unless it has a fraction or a power of ten. -/
def decimal? : Scanner Fault (Option Value) := do
  match whole? (← get) with
  | none => return none
  | some (negative, whole, rest) =>
    set rest
    match ← Number.fraction? true, ← Number.exponent? true with
    | none, none =>
      match Number.integer negative whole with
      | .ok n => return some (.int n)
      | .error count => throw (.tooManyDigits count)
    | fraction, exponent =>
      return some (.float (Number.toDouble negative whole (fraction.getD []) (exponent.getD 0)))

/-- Takes a value that holds no other values and is not a text: of two readings that both fit, the
first in this order. -/
def scalar : Scanner Fault Value := do
  if let some v ← oneOf? words then return v
  if let some v ← moment? then return v
  if let some v ← based? then return v
  if let some v ← decimal? then return v
  if let some v ← oneOf? specialNumbers then return v
  throw .malformed

end TemplateLint.Toml
