import TemplateLint.Toml.Document
import TemplateLint.Toml.Scalar
import TemplateLint.Toml.Text

/-! Configuration files as tables. -/

namespace TemplateLint.Toml

open TemplateLint.Text (Scanner)

/-- Runs a step on the rest of the text that may refuse it. -/
def orFail {α : Type} (x : Option α) : Scanner Fault α :=
  match x with
  | some a => return a
  | none => throw .malformed

def skipSpace : Scanner Fault Unit := Scanner.skipWhile isSpace

/-- Skips blanks, newlines and comments. -/
def skipAll : Scanner Fault Unit := do
  set (← orFail (skipFiller false (← get)))

def take (f : List Char → Option (List Char × List Char)) : Scanner Fault String := do
  let (t, rest) ← orFail (f (← get))
  set rest
  return String.ofList t

def isBare (c : Char) : Bool :=
  ('a' ≤ c && c ≤ 'z') || ('A' ≤ c && c ≤ 'Z') || ('0' ≤ c && c ≤ '9') || c = '-' || c = '_'

/-- One part of a dotted key: bare, or a text on one line. -/
def keyPart : Scanner Fault String := do
  match ← get with
  | '\x22' :: rest => set rest; take quotedText
  | '\x27' :: rest => set rest; take plainText
  | s =>
    let (part, rest) := s.span isBare
    if part.isEmpty then throw .malformed
    set rest
    return String.ofList part

/-- A dotted key. The first argument bounds its parts. -/
def key : Nat → Scanner Fault KeyPath
  | 0 => throw .malformed
  | steps + 1 => do
    let part ← keyPart
    skipSpace
    if ← Scanner.accept ['.'] then
      skipSpace
      return part :: (← key steps)
    else return [part]

mutual

/-- Takes a value. The first argument bounds the number of steps. -/
def value : Nat → Scanner Fault Value
  | 0 => throw .malformed
  | steps + 1 => do
    match (← get).head? with
    | some '\x22' | some '\x27' => return .text (← take text?)
    | some '[' =>
      let _ ← Scanner.accept ['[']
      return .list (← items steps)
    | some '\x7b' =>
      let _ ← Scanner.accept ['\x7b']
      skipSpace
      if ← Scanner.accept ['\x7d'] then return .table []
      else return .table (← inline steps {})
    | _ => scalar

/-- Takes the values of a list, from after its bracket or a comma, and the closing bracket. -/
def items : Nat → Scanner Fault (List Value)
  | 0 => throw .malformed
  | steps + 1 => do
    skipAll
    if ← Scanner.accept [']'] then return []
    let v ← value steps
    skipAll
    if ← Scanner.accept [','] then return v :: (← items steps)
    else
      Scanner.expect .malformed [']']
      return [v]

/-- Takes the fields of an inline table from the next one on, and the closing brace. -/
def inline : Nat → Inline → Scanner Fault Fields
  | 0, _ => throw .malformed
  | steps + 1, t => do
    let k ← key steps
    Scanner.expect .malformed ['=']
    skipSpace
    let v ← value steps
    let t ← orFail (t.insert k v)
    skipSpace
    if ← Scanner.accept [','] then
      skipSpace
      inline steps t
    else
      Scanner.expect .malformed ['\x7d']
      return t.fields

end

/-- Takes a statement that is not empty: a header or a field. Gives the header that is now open. -/
def statement (steps : Nat) (header : KeyPath) (d : Document) :
    Scanner Fault (KeyPath × Document) := do
  if ← Scanner.accept ['[', '['] then
    skipSpace
    let k ← key steps
    let d ← orFail (d.openElement k)
    Scanner.expect .malformed [']', ']']
    return (k, d)
  else if ← Scanner.accept ['['] then
    skipSpace
    let k ← key steps
    let d ← orFail (d.openTable k)
    Scanner.expect .malformed [']']
    return (k, d)
  else
    let k ← key steps
    Scanner.expect .malformed ['=']
    skipSpace
    let v ← value steps
    return (header, ← orFail (d.insert header k v))

/-- Takes the rest of a line after its statement: blanks and a comment. -/
def lineEnd : Scanner Fault Unit := do
  skipSpace
  if ← Scanner.accept ['#'] then
    let comment ← Scanner.takeWhile (· ≠ '\n')
    if comment.any isControl then throw .malformed
  match ← get with
  | [] => return
  | '\n' :: rest => set rest
  | _ => throw .malformed

/-- Takes lines to the end of the text. The first argument bounds their number. -/
def lines : Nat → KeyPath → Document → Scanner Fault Document
  | 0, _, _ => throw .malformed
  | steps + 1, header, d => do
    skipSpace
    match (← get).head? with
    | none => return d
    | some '\n' | some '#' =>
      lineEnd
      lines steps header d
    | some _ =>
      let (header, d) ← statement (steps + 1) header d
      lineEnd
      lines steps header d

/-- Writes a carriage return with a line feed after it as the line feed. -/
def joinLineEnds : List Char → List Char
  | '\r' :: '\n' :: rest => '\n' :: joinLineEnds rest
  | c :: rest => c :: joinLineEnds rest
  | [] => []

/-- Reads a file. Two steps for each character are enough, as a line, a list or an inline table
takes a character more than what it holds. -/
def read (s : String) : Except Fault Fields := do
  let chars := joinLineEnds s.toList
  let d ← (lines (2 * chars.length + 2) [] {}).run' chars
  return d.tables

end TemplateLint.Toml
