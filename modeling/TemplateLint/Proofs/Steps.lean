import Mathlib.Data.List.Chain
import TemplateLint.Syntax.Traversal

/-! A walk as the list of its steps, each with the path to its node. -/

namespace TemplateLint

variable {m : Type → Type}

theorem forM_congr [Monad m] {α : Type} {xs : List α} {f g : α → m Unit}
    (h : ∀ x ∈ xs, f x = g x) : xs.forM f = xs.forM g := by
  induction xs with
  | nil => rfl
  | cons x rest ih =>
    simp only [List.forM_eq_forM, List.forM_cons] at ih ⊢
    rw [h x List.mem_cons_self, ih fun y hy => h y (List.mem_cons_of_mem x hy)]

theorem forM_flatMap [Monad m] [LawfulMonad m] {α β : Type} (xs : List α) (g : α → List β)
    (f : β → m Unit) : (xs.flatMap g).forM f = xs.forM fun x => (g x).forM f := by
  induction xs with
  | nil => rfl
  | cons x rest ih =>
    simp only [List.forM_eq_forM, List.flatMap_cons, List.forM_append, List.forM_cons] at ih ⊢
    rw [ih]

inductive Phase where
  | enter
  | exit
  deriving DecidableEq, Repr

/-- A node is entered or left. -/
structure Step where
  phase : Phase
  node : Node
  /-- The nodes around it up to the root of the walk, innermost first. -/
  above : List Node

def Step.act [Monad m] (visitor : Visitor m) (s : Step) : m Unit :=
  match s.phase with
  | .enter => (visitor s.node.kind).onEnter s.node
  | .exit => (visitor s.node.kind).onExit s.node

namespace Node

/-- The steps of a walk in their order, below the given nodes. -/
def steps (above : List Node) (node : Node) : List Step :=
  ⟨.enter, node, above⟩ ::
    node.children.attach.flatMap (fun ⟨child, _⟩ => child.steps (node :: above)) ++
    [⟨.exit, node, above⟩]
termination_by sizeOf node
decreasing_by exact sizeOf_lt_of_mem_children ‹_›

/-- The nodes of a tree, each before its descendants. -/
def occurrences (node : Node) : List Node :=
  node :: node.children.attach.flatMap fun ⟨child, _⟩ => child.occurrences
termination_by sizeOf node
decreasing_by exact sizeOf_lt_of_mem_children ‹_›

theorem steps_eq (above : List Node) (node : Node) :
    node.steps above = ⟨.enter, node, above⟩ ::
      node.children.flatMap (steps (node :: above)) ++ [⟨.exit, node, above⟩] := by
  rw [steps, List.flatMap_subtype (g := steps (node :: above)) (fun _ _ => rfl),
    List.unattach_attach]

theorem occurrences_eq (node : Node) :
    node.occurrences = node :: node.children.flatMap occurrences := by
  rw [occurrences, List.flatMap_subtype (g := occurrences) (fun _ _ => rfl), List.unattach_attach]

theorem mem_occurrences_self (node : Node) : node ∈ node.occurrences := by
  rw [occurrences_eq]
  exact List.mem_cons_self

theorem mem_occurrences_of_child {node child root : Node} (hc : child ∈ node.children) :
    node ∈ root.occurrences → child ∈ root.occurrences := by
  induction root using childrenInduction with
  | step root ih =>
    intro hn
    rw [occurrences_eq] at hn ⊢
    rcases List.mem_cons.mp hn with rfl | hn
    · exact List.mem_cons_of_mem _ (List.mem_flatMap.mpr ⟨child, hc, mem_occurrences_self child⟩)
    · obtain ⟨above, ha, hn⟩ := List.mem_flatMap.mp hn
      exact List.mem_cons_of_mem _ (List.mem_flatMap.mpr ⟨above, ha, ih above ha hn⟩)

/-- Each node of the path is a child of the next one, and the last one is the root. -/
def IsPath (root : Node) (path : List Node) : Prop :=
  path.IsChain (fun child parent => child ∈ parent.children) ∧ path.getLast? = some root

theorem isPath_self (root : Node) : root.IsPath [root] :=
  ⟨List.isChain_singleton _, rfl⟩

theorem isPath_append {root child : Node} {path : List Node} (hc : child ∈ root.children)
    (hp : child.IsPath path) : root.IsPath (path ++ [root]) := by
  refine ⟨?_, List.getLast?_concat⟩
  apply List.isChain_append.mpr
  refine ⟨hp.1, List.isChain_singleton _, ?_⟩
  intro last hl parent hr
  rw [hp.2] at hl
  cases hl
  cases hr
  exact hc

/-- A step stands below the given nodes at the end of a path from the root of the walk. -/
theorem exists_path_of_mem_steps {root : Node} {above : List Node} {s : Step}
    (hs : s ∈ root.steps above) :
    ∃ path, s.node :: s.above = path ++ above ∧ root.IsPath path := by
  induction root using childrenInduction generalizing above with
  | step root ih =>
    rw [steps_eq, List.cons_append, List.mem_cons, List.mem_append, List.mem_singleton] at hs
    rcases hs with rfl | hs | rfl
    · exact ⟨[root], rfl, isPath_self root⟩
    · obtain ⟨child, hc, hs⟩ := List.mem_flatMap.mp hs
      obtain ⟨path, he, hp⟩ := ih child hc hs
      exact ⟨path ++ [root], by simpa using he, isPath_append hc hp⟩
    · exact ⟨[root], rfl, isPath_self root⟩

/-- A walk takes its steps one after the other. -/
theorem traverse_eq_forM_steps [Monad m] [LawfulMonad m] (visitor : Visitor m)
    (above : List Node) (node : Node) :
    node.traverse visitor = (node.steps above).forM (Step.act visitor) := by
  induction node using childrenInduction generalizing above with
  | step node ih =>
    have hc : node.children.forM (traverse visitor) =
        (node.children.flatMap (steps (node :: above))).forM (Step.act visitor) := by
      rw [forM_flatMap]
      exact forM_congr fun child hc => ih child hc (node :: above)
    rw [traverse_eq, steps_eq, hc]
    simp [List.forM_eq_forM, List.forM_cons, List.forM_append, Step.act]

end Node

end TemplateLint
