import TemplateLint.Syntax.Location

/-! What a rule reports, and the order of reports. -/

namespace TemplateLint

structure Violation where
  rule : String
  message : String
  line : Option Int := none
  column : Option Int := none
  source : String := ""
  deriving DecidableEq, Repr

namespace Violation

def place (v : Violation) : String :=
  match v.line with
  | none => "unknown location"
  | some line =>
    "line " ++ toString line ++ ", column " ++ (v.column.elim "None" toString)

def display (v : Violation) : String :=
  v.rule ++ " (" ++ v.place ++ "): " ++ v.message

/-- The place for sorting; what is missing counts as zero. -/
def key (v : Violation) : Int × Int :=
  (v.line.getD 0, v.column.getD 0)

/-- The order by line, then by column. -/
def le (a b : Violation) : Bool :=
  a.key.1 < b.key.1 || (a.key.1 = b.key.1 && a.key.2 ≤ b.key.2)

/-- By place; violations of one place stay in their order. -/
def sort (vs : List Violation) : List Violation :=
  vs.mergeSort le

end Violation

end TemplateLint
