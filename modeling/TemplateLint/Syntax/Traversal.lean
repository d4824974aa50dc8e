import TemplateLint.Syntax.Children
import TemplateLint.Value.Named

/-!
Walks over a syntax tree. A handler's exit runs after all descendants of the node, so that enter
and exit bracket the walk of the node's subtree.
-/

namespace TemplateLint

variable {m : Type → Type}

/-- What a visitor does at the nodes of a kind. -/
structure Handler (m : Type → Type) where
  enter : Option (Node → m Unit) := none
  exit : Option (Node → m Unit) := none

/-- A visitor of no kind has a handler that does nothing there. -/
abbrev Visitor (m : Type → Type) := Kind → Handler m

/-- What is registered for the nodes of a kind: an act at their enter, or a handler. -/
inductive Registration (m : Type → Type) where
  | call (act : Node → m Unit)
  | handler (h : Handler m)

/-- Registrations by the names of kinds. -/
abbrev Registry (m : Type → Type) := Named (Registration m)

def Registration.toHandler : Registration m → Handler m
  | call act => { enter := some act }
  | handler h => h

def Registry.visitor (r : Registry m) : Visitor m := fun kind =>
  match r.get? kind.name with
  | some registration => registration.toHandler
  | none => {}

variable [Monad m]

def Handler.onEnter (h : Handler m) (node : Node) : m Unit :=
  match h.enter with
  | some act => act node
  | none => pure ()

def Handler.onExit (h : Handler m) (node : Node) : m Unit :=
  match h.exit with
  | some act => act node
  | none => pure ()

/-- Visits a node and its descendants, children in source order. -/
def Node.traverse (visitor : Visitor m) (node : Node) : m Unit := do
  (visitor node.kind).onEnter node
  node.children.attach.forM fun ⟨child, _⟩ => child.traverse visitor
  (visitor node.kind).onExit node
termination_by sizeOf node
decreasing_by exact Node.sizeOf_lt_of_mem_children ‹_›

theorem forM_map_val {α : Type} {p : α → Prop} (xs : List (Subtype p)) (f : α → m Unit) :
    (xs.forM fun x => f x.1) = (xs.map Subtype.val).forM f := by
  induction xs with
  | nil => rfl
  | cons x rest ih =>
    change (f x.1 >>= fun _ => rest.forM fun x => f x.1) = _
    rw [ih]
    rfl

theorem Node.traverse_eq (visitor : Visitor m) (node : Node) :
    node.traverse visitor = (do
      (visitor node.kind).onEnter node
      node.children.forM (Node.traverse visitor)
      (visitor node.kind).onExit node) := by
  rw [Node.traverse]
  congr 1
  funext
  congr 1
  rw [forM_map_val (f := Node.traverse visitor), List.attach_map_subtype_val]

end TemplateLint
