import TemplateLint.Log.Field
import TemplateLint.Log.Record
import TemplateLint.Number.Decimal
import TemplateLint.Text.DecimalDigit
import TemplateLint.Text.Word

/-!
How a log record is written. A format holds fields such as `%(message)s`; a doubled percent sign
stands for itself.
-/

namespace TemplateLint.Log

inductive Piece where
  | literal (c : Char)
  | field (f : Field)
  deriving DecidableEq, Repr

abbrev Layout := List Piece

def defaultFormat : String :=
  "%(asctime)s - %(name)s - %(levelname)s - %(message)s"

def isFlag (c : Char) : Bool := ['#', '0', '+', ' ', '-'].contains c

/-- A number at the front, zero when there is none, and what follows it. -/
def count (s : List Char) : Nat × List Char :=
  let (digits, rest) := s.span Number.isDigit
  (Number.valueOf 10 digits, rest)

/-- The name in brackets at the front, if any, and what follows it. -/
def name? : List Char → Option (Option String × List Char)
  | '(' :: s =>
    match s.span (· ≠ ')') with
    | (name, _ :: rest) => some (some (String.ofList name), rest)
    | (_, []) => none
  | s => some (none, s)

/-- The field that starts after its percent sign, and what follows it. A letter for the size of a
number says nothing, and a width or a precision can be too large. -/
def field? (s : List Char) : Option (Field × List Char) := do
  let (name, s) ← name? s
  let (flags, s) := s.span isFlag
  let (width, s) := count s
  let (precision, s) :=
    match s with
    | '.' :: s => let (n, s) := count s; (some n, s)
    | s => (none, s)
  let s :=
    match s with
    | 'h' :: s | 'l' :: s | 'L' :: s => s
    | s => s
  guard (width < Nat.pow 2 63 && precision.getD 0 < Nat.pow 2 31)
  match s with
  | [] => none
  | c :: rest => return (⟨name, flags, width, precision, ← Conversion.ofLetter? c, c.isUpper⟩, rest)

/-- Letters that may end a field, in either case, and the forms of `i` and `s` that have one of them
as their other case. -/
def endsField (c : Char) : Bool :=
  "diouxefgcrsa%".toList.contains c.toLower || ['\u0130', '\u0131', '\u017f'].contains c

/-- What follows a number or an asterisk at the front, if there is one. -/
def skipCount : List Char → List Char
  | '*' :: s => s
  | s => s.dropWhile fun c => (Text.digitValue? c).isSome

/-- Whether what follows a percent sign looks like a field with a name. -/
def looksLikeField : List Char → Bool
  | '(' :: s =>
    match s.span Text.isWordChar with
    | (_ :: _, ')' :: s) =>
      match skipCount (s.dropWhile isFlag) with
      | '.' :: s => skipCount s ≠ s && (skipCount s).head?.any endsField
      | s => s.head?.any endsField
    | _ => false
  | _ => false

/-- Whether something that looks like a field stands anywhere in a format, also right after a doubled
percent sign. -/
def holdsField : List Char → Bool
  | [] => false
  | c :: rest => (c = '%' && looksLikeField rest) || holdsField rest

/-- The parts of a format between percent signs. -/
def parts : List Char → List (List Char)
  | [] => [[]]
  | c :: rest =>
    if c = '%' then [] :: parts rest
    else
      match parts rest with
      | [] => [[c]]
      | part :: more => (c :: part) :: more

/-- The pieces from a percent sign on: an empty part stands between two percent signs. -/
def fromPercent? : List (List Char) → Option Layout
  | [] => some []
  | [] :: part :: more => do
    return .literal '%' :: part.map .literal ++ (← fromPercent? more)
  | part :: more => do
    let (f, after) ← field? part
    return .field f :: after.map .literal ++ (← fromPercent? more)

def Piece.field? : Piece → Option Field
  | literal _ => none
  | field f => some f

/-- The pieces of a format; none when a percent sign starts no field, or when a field without a name
follows another field. -/
def pieces? (format : List Char) : Option Layout := do
  let pieces ←
    match parts format with
    | [] => some []
    | part :: more => (fromPercent? more).map (part.map .literal ++ ·)
  guard (((pieces.filterMap Piece.field?).drop 1).all (·.name.isSome))
  return pieces

/-- What the program does not decide about a record: when, where and in which process it is logged,
and what its message was made of. -/
structure Occasion where
  /-- The date and time. -/
  stamp : String := ""
  /-- How a field shows the parts of the message, the place in the program, the process, the thread or
  the clock. -/
  origin : String → Field → Option (List Char) := fun _ _ => none
  /-- The record with all that it holds. -/
  display : String := ""
  /-- Where the program was, and which record it is about. -/
  trace : String := ""

/-- What the error stream is told about a record that a format does not take. -/
def Occasion.report (o : Occasion) : String :=
  "--- Logging error ---\n" ++ o.trace

/-- The names under which a record has the parts of its message, its place, its process, its thread
and its clock. -/
def originNames : List String :=
  ["msg", "args", "pathname", "filename", "module", "funcName", "lineno", "process", "processName",
    "thread", "threadName", "created", "msecs", "relativeCreated"]

/-- What a record has under a name that is not one of its origin. -/
def Record.show? (r : Record) (o : Occasion) (name : String) : Option Shown :=
  match name with
  | "asctime" => some (.text o.stamp)
  | "name" => some (.text r.channel)
  | "levelname" => some (.text (levelName r.level))
  | "levelno" => some (.number r.level)
  | "message" => some (.text r.message)
  | "exc_info" | "exc_text" | "stack_info" => some (.thing "None")
  | _ => none

/-- How a field shows a record; none when it asks for what no record has. A field without a name
shows the record itself. -/
def Field.show? (f : Field) (o : Occasion) (r : Record) : Option (List Char) :=
  match f.name with
  | none => f.write? (.thing o.display)
  | some name =>
    if originNames.contains name then o.origin name f else (r.show? o name).bind f.write?

def Piece.write? (o : Occasion) (r : Record) : Piece → Option (List Char)
  | literal c => some [c]
  | field f => f.show? o r

/-- The text of a record; none when the format does not take the record. -/
def Layout.write? (layout : Layout) (o : Occasion) (r : Record) : Option String := do
  let written ← layout.mapM (Piece.write? o r)
  return String.ofList written.flatten

end TemplateLint.Log
