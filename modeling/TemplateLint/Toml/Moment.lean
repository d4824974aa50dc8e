import TemplateLint.Number.Decimal
import TemplateLint.Value.Moment

/-! Dates and times at the front of a text. -/

namespace TemplateLint.Toml

/-- A reader that gives up on a text without taking anything of it. -/
abbrev Matcher := StateT (List Char) Option

namespace Matcher

def char (p : Char → Bool) : Matcher Char := do
  match ← get with
  | c :: rest => if p c then do set rest; return c else failure
  | [] => failure

/-- A number of exactly so many digits, between two bounds. -/
def number (count low high : Nat) : Matcher Nat := do
  let digits ← (List.replicate count Number.isDigit).mapM char
  let n := Number.valueOf 10 digits
  if low ≤ n ∧ n ≤ high then return n else failure

end Matcher

open Matcher

/-- Millionths of a second after a point; further digits are dropped. -/
def microseconds : Matcher Nat := do
  let _ ← char (· = '.')
  let first ← char Number.isDigit
  let (digits, after) := (← get).span Number.isDigit
  set after
  return Number.valueOf 10 (((first :: digits) ++ List.replicate 5 '0').take 6)

def time : Matcher TimeOfDay := do
  let hour ← number 2 0 23
  let _ ← char (· = ':')
  let minute ← number 2 0 59
  let _ ← char (· = ':')
  let second ← number 2 0 59
  return ⟨hour, minute, second, (← optional microseconds).getD 0⟩

/-- A date whose day need not be one of the month. -/
def date : Matcher Date := do
  let year ← number 4 0 9999
  let _ ← char (· = '-')
  let month ← number 2 1 12
  let _ ← char (· = '-')
  return ⟨year, month, ← number 2 1 31⟩

def universal : Matcher Int := do
  let _ ← char fun c => c = 'Z' || c = 'z'
  return 0

def offset : Matcher Int := do
  let sign ← char fun c => c = '+' || c = '-'
  let hours ← number 2 0 23
  let _ ← char (· = ':')
  let minutes ← number 2 0 59
  let total : Nat := 60 * hours + minutes
  return if sign = '-' then -total else total

def timeAfterDate : Matcher (TimeOfDay × Option Int) := do
  let _ ← char fun c => c = 'T' || c = 't' || c = ' '
  return (← time, ← optional (universal <|> offset))

def dateTime : Matcher Moment := do
  let d ← date
  match ← optional timeAfterDate with
  | none => return .date d
  | some (t, zone) => return .dateTime d t zone

def moment : Matcher Moment :=
  dateTime <|> Moment.time <$> time

def isValid : Moment → Bool
  | .date d => d.isValid
  | .time _ => true
  | .dateTime d _ _ => d.isValid

end TemplateLint.Toml
