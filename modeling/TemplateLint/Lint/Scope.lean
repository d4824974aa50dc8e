import TemplateLint.Syntax.Node
import TemplateLint.Text.Names

/-! The names that the blocks around a place bind. -/

namespace TemplateLint

/-- The names that one block binds, in ascending order. -/
structure Frame where
  names : List String
  deriving DecidableEq, Repr

/-- One frame for each block around the place, innermost first. -/
abbrev Scope := List Frame

def Node.frame (node : Node) : Frame := ⟨Text.sortedNames node.binds⟩

/-- The part of a name before its first point. -/
def nameHead (name : String) : String :=
  String.ofList (name.toList.takeWhile (· ≠ '.'))

/-- Whether a block around the place binds the head of the name. -/
def Scope.isLocal (scope : Scope) (name : String) : Bool :=
  scope.any fun frame => frame.names.contains (nameHead name)

theorem mem_names_frame {name : String} {node : Node} :
    name ∈ node.frame.names ↔ name ∈ node.binds :=
  Text.mem_sortedNames

theorem Scope.isLocal_iff {scope : Scope} {name : String} :
    scope.isLocal name ↔ ∃ frame ∈ scope, nameHead name ∈ frame.names := by
  simp [isLocal]

end TemplateLint
