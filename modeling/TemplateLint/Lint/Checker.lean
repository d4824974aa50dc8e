import TemplateLint.Lint.Blacklist
import TemplateLint.Lint.Scope
import TemplateLint.Syntax.Traversal

/-!
The check of invocations against a blacklist. A walk keeps the frames of the blocks around it and
a trace of what it did.
-/

namespace TemplateLint

/-- A node that is not to be invoked, and the name under which it is reported. -/
structure Finding where
  node : Node
  label : String

/-- What a walk did. Depths count the frames with the one pushed or popped. -/
inductive Event where
  | pushed (depth : Nat) (frame : Frame)
  | popped (depth : Nat)
  | shadowed (name : String)
  | found (finding : Finding)

inductive CheckFault where
  /-- The name to look up is a list or a table. -/
  | nameNotAtomic (name : Value)
  | emptyScope
  /-- The node to check is not an invocation. -/
  | notInvocation (kind : Kind)

def CheckFault.message : CheckFault → String
  | nameNotAtomic name => "a " ++ name.kindName ++ " is not a name"
  | emptyScope => "pop_frame() called on an empty scope"
  | notInvocation kind => "a " ++ kind.name ++ " invokes nothing"

structure Walk where
  scope : Scope := []
  trace : Array Event := #[]

/-- Steps of a walk. What was done before a fault remains done. -/
abbrev WalkM := ExceptT CheckFault (StateM Walk)

namespace WalkM

def note (event : Event) : WalkM Unit :=
  modify fun w => { w with trace := w.trace.push event }

def pushFrame (node : Node) : WalkM Frame := do
  modify fun w => { w with scope := node.frame :: w.scope }
  note (.pushed (← get).scope.length node.frame)
  return node.frame

def popFrame : WalkM Frame := do
  match (← get).scope with
  | [] => throw .emptyScope
  | frame :: outer =>
    modify fun w => { w with scope := outer }
    note (.popped (outer.length + 1))
    return frame

def report (node : Node) (label : String) : WalkM Unit :=
  note (.found ⟨node, label⟩)

end WalkM

namespace Node

/-- The name that a callee was written with, when it is a text. -/
def invokedName? (node : Node) : Option String := do
  (← (← node.callee?).written?).text?

def componentHelper : String := "component"

/-- What the helper for components is given as its first argument, when that is a text literal. -/
def componentTarget? (node : Node) : Option Value :=
  if node.invokedName? = some componentHelper then
    match node.params with
    | .string value _ :: _ => some value
    | _ => none
  else none

end Node

namespace Blacklist

def wildcardLabel : String := "wildcard"

/-- Checks a component by its name: the wildcard is no component. -/
def checkName (b : Blacklist) (node : Node) (name : String) : WalkM Unit := do
  if name = wildcard then return
  match b.get? name with
  | none => return
  | some condition =>
    if condition.holds node then
      if (← get).scope.isLocal name then WalkM.note (.shadowed name)
      else WalkM.report node name

/-- Checks an invocation: first against the wildcard, whatever is invoked, then by the name that is
given to the helper for components. -/
def check (b : Blacklist) (node : Node) : WalkM Unit := do
  if b.wildcardCondition.holds node then WalkM.report node wildcardLabel
  if node.callee?.isNone then throw (.notInvocation node.kind)
  match node.componentTarget? with
  | some (.text name) => b.checkName node name
  | some (.list items) => throw (.nameNotAtomic (.list items))
  | some (.table fields) => throw (.nameNotAtomic (.table fields))
  | _ => return

/-- Entering a block binds its names before the block itself is checked. -/
def enterBlock (b : Blacklist) (node : Node) : WalkM Unit := do
  let _ ← WalkM.pushFrame node
  b.check node

def exitBlock (_ : Node) : WalkM Unit := do
  let _ ← WalkM.popFrame

def visitor (b : Blacklist) : Visitor WalkM
  | .blockStatement => { enter := some b.enterBlock, exit := some exitBlock }
  | .mustacheStatement | .subExpression => { enter := some b.check }
  | _ => {}

end Blacklist

end TemplateLint
