import TemplateLint.Syntax.Node

/-! Names that are not to be invoked, each with the condition under which it counts. -/

namespace TemplateLint

/-- When an invocation counts. -/
inductive Condition where
  | never
  /-- It passes every one of these named arguments. -/
  | passes (attributes : List String)
  deriving DecidableEq, Repr

/-- Whether an invocation passes every one of the named arguments. -/
def Node.passesAll (node : Node) (attributes : List String) : Bool :=
  attributes.all node.hashKeys.contains

def Condition.holds : Condition → Node → Bool
  | never, _ => false
  | passes attributes, node => node.passesAll attributes

/-- Conditions in the order in which their names were first given; the wildcard comes first. -/
abbrev Blacklist := Named Condition

namespace Blacklist

def wildcard : String := "*"

/-- Lists no name, and has a wildcard that counts nothing. -/
def base : Blacklist := [(wildcard, .never)]

/-- The condition of the wildcard, which counts whatever is invoked. -/
def wildcardCondition (b : Blacklist) : Condition :=
  (b.get? wildcard).getD .never

/-- The listed names without the wildcard. -/
def listed (b : Blacklist) : List String :=
  b.names.filter (· ≠ wildcard)

end Blacklist

theorem Node.passesAll_iff {node : Node} {attributes : List String} :
    node.passesAll attributes ↔ ∀ a ∈ attributes, a ∈ node.hashKeys := by
  simp [passesAll]

end TemplateLint
