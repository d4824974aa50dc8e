import TemplateLint.Number.Decimal
import TemplateLint.Value.Basic

/-!
JSON documents as values. The three words for numbers that are not finite are read too. An escaped
surrogate that stands alone is in no text of ours; it is read as U+FFFD, and so texts that differ in
such surrogates only are read as one.
-/

namespace TemplateLint.Json

open Text (Scanner)

inductive Fault where
  | malformed
  | tooManyDigits (count : Nat)
  deriving DecidableEq, Repr

def Fault.message : Fault → String
  | malformed => "malformed JSON document"
  | tooManyDigits count => Number.tooManyDigits count

def isSpace (c : Char) : Bool :=
  c = ' ' || c = '\t' || c = '\n' || c = '\r'

def skipSpace : Scanner Fault Unit := Scanner.skipWhile isSpace

def shortEscape? : Char → Option Nat
  | '\x22' => some 0x22
  | '\\' => some 0x5c
  | '/' => some 0x2f
  | 'b' => some 0x08
  | 'f' => some 0x0c
  | 'n' => some 0x0a
  | 'r' => some 0x0d
  | 't' => some 0x09
  | _ => none

def hexValue? (digits : List Char) : Option Nat :=
  (digits.mapM (Number.digitOf? 16)).map (Text.ofDigits 16)

/-- The code units up to the closing quote, and what follows it. -/
def textUnits : List Char → Option (List Nat × List Char)
  | [] => none
  | '\x22' :: rest => some ([], rest)
  | '\\' :: 'u' :: a :: b :: c :: d :: rest => do
    let unit ← hexValue? [a, b, c, d]
    let (units, after) ← textUnits rest
    return (unit :: units, after)
  | '\\' :: c :: rest => do
    let unit ← shortEscape? c
    let (units, after) ← textUnits rest
    return (unit :: units, after)
  | c :: rest => do
    guard (' ' ≤ c && c ≠ '\\')
    let (units, after) ← textUnits rest
    return (c.toNat :: units, after)

/-- Two surrogates in a row make one character. One that stands alone is replaced: here, and here
only, texts that differ fall together. -/
def ofUnits : List Nat → List Char
  | [] => []
  | high :: low :: rest =>
    if 0xd800 ≤ high && high < 0xdc00 && 0xdc00 ≤ low && low < 0xe000 then
      Char.ofNat (0x10000 + (high - 0xd800) * 0x400 + (low - 0xdc00)) :: ofUnits rest
    else single high :: ofUnits (low :: rest)
  | [unit] => [single unit]
where
  single (unit : Nat) : Char :=
    if 0xd800 ≤ unit && unit < 0xe000 then '\ufffd' else Char.ofNat unit

/-- Takes a text after its opening quote. -/
def text : Scanner Fault String := do
  match textUnits (← get) with
  | some (units, after) => set after; return String.ofList (ofUnits units)
  | none => throw .malformed

/-- Takes a number. It is an integer unless it has a fraction or a power of ten. -/
def number : Scanner Fault Value := do
  let negative ← Scanner.accept ['-']
  let whole ← do
    if ← Scanner.accept ['0'] then pure ['0'] else Number.digits 10 false
  if whole.isEmpty then throw .malformed
  match ← Number.fraction? false, ← Number.exponent? false with
  | none, none =>
    match Number.integer negative whole with
    | .ok n => return .int n
    | .error count => throw (.tooManyDigits count)
  | fraction, exponent =>
    return .float (Number.toDouble negative whole (fraction.getD []) (exponent.getD 0))

def words : List (List Char × Value) :=
  [("null".toList, .null), ("true".toList, .bool true), ("false".toList, .bool false),
    ("NaN".toList, .float .nan), ("Infinity".toList, .float (.infinite false)),
    ("-Infinity".toList, .float (.infinite true))]

/-- Takes the first of the words that the text starts with. -/
def word? : Scanner Fault (Option Value) := do
  let s ← get
  match words.find? fun (spelling, _) => spelling.isPrefixOf s with
  | some (spelling, value) => set (s.drop spelling.length); return some value
  | none => return none

mutual

/-- Takes a value. The first argument bounds the number of steps. -/
def value : Nat → Scanner Fault Value
  | 0 => throw .malformed
  | steps + 1 => do
    if ← Scanner.accept ['\x22'] then return .text (← text)
    else if ← Scanner.accept ['['] then
      skipSpace
      if ← Scanner.accept [']'] then return .list [] else return .list (← items steps)
    else if ← Scanner.accept ['\x7b'] then
      skipSpace
      if ← Scanner.accept ['\x7d'] then return .table []
      else return .table ((← members steps).foldl (fun fields (n, v) => Named.set fields n v) [])
    else
      match ← word? with
      | some v => return v
      | none => number

/-- Takes the values of a list that is not empty, and the closing bracket. -/
def items : Nat → Scanner Fault (List Value)
  | 0 => throw .malformed
  | steps + 1 => do
    let v ← value steps
    skipSpace
    if ← Scanner.accept [','] then
      skipSpace
      return v :: (← items steps)
    else
      Scanner.expect .malformed [']']
      return [v]

/-- Takes the members of an object that is not empty, and the closing brace. -/
def members : Nat → Scanner Fault (List (String × Value))
  | 0 => throw .malformed
  | steps + 1 => do
    Scanner.expect .malformed ['\x22']
    let name ← text
    skipSpace
    Scanner.expect .malformed [':']
    skipSpace
    let v ← value steps
    skipSpace
    if ← Scanner.accept [','] then
      skipSpace
      return (name, v) :: (← members steps)
    else
      Scanner.expect .malformed ['\x7d']
      return [(name, v)]

end

def document (steps : Nat) : Scanner Fault Value := do
  skipSpace
  let v ← value steps
  skipSpace
  if (← get).isEmpty then return v else throw .malformed

/-- Reads a document. Two steps for each character are enough, as a step into a list or an object
takes its bracket and every other step takes a separator. -/
def read (s : String) : Except Fault Value :=
  let chars := s.toList
  (document (2 * chars.length + 2)).run' chars

end TemplateLint.Json
