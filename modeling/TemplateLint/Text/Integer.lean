import TemplateLint.Text.Blank
import TemplateLint.Text.DecimalDigit

/-!
Integers written as text: blanks around, one sign, digits of any script with single underscores
between them, and at most 4300 digits.
-/

namespace TemplateLint.Text

def digitLimit : Nat := 4300

/-- The digits of a written number; an underscore stands only between two digits. -/
def groupedDigits? (value? : Char → Option Nat) : List Char → Option (List Nat)
  | [] => none
  | [c] => (value? c).map ([·])
  | c :: '_' :: rest => do
    let d ← value? c
    let ds ← groupedDigits? value? rest
    return d :: ds
  | c :: rest => do
    let d ← value? c
    let ds ← groupedDigits? value? rest
    return d :: ds

def ofDigits (base : Nat) (ds : List Nat) : Nat :=
  ds.foldl (fun n d => base * n + d) 0

def natural? (s : List Char) : Option Nat := do
  let ds ← groupedDigits? digitValue? s
  if ds.length ≤ digitLimit then some (ofDigits 10 ds) else none

def integer? (s : String) : Option Int :=
  match strip s.toList with
  | '+' :: rest => (natural? rest).map (↑·)
  | '-' :: rest => (natural? rest).map (-↑·)
  | rest => (natural? rest).map (↑·)

end TemplateLint.Text
