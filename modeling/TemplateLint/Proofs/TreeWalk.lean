import TemplateLint.Proofs.Walk

/-!
The walk of a whole tree under a scope. Main statements: it faults as the first of its nodes that
does, and otherwise it leaves the scope that it found.
-/

namespace TemplateLint

open CheckFault

variable {b : Blacklist} {scope : Scope}

def Value.isCollection : Value → Bool
  | .list _ | .table _ => true
  | _ => false

namespace Node

/-- Whether a walk checks the node. -/
def isChecked (node : Node) : Bool :=
  match node.kind with
  | .blockStatement | .mustacheStatement | .subExpression => true
  | _ => false

def isBlockStatement (node : Node) : Bool := node.kind = .blockStatement

def visitFault (node : Node) : Option CheckFault :=
  if node.isChecked then node.checkFault else none

/-- The scope below a node. -/
def inner (scope : Scope) (node : Node) : Scope :=
  if node.isBlockStatement then node.frame :: scope else scope

/-- What a walk of the tree notes when it goes through to its end. -/
def treeEvents (b : Blacklist) (scope : Scope) (node : Node) : List Event :=
  Step.events b ⟨.enter, node, []⟩ scope ++
    node.children.attach.flatMap (fun ⟨child, _⟩ => child.treeEvents b (node.inner scope)) ++
    Step.events b ⟨.exit, node, []⟩ (node.inner scope)
termination_by sizeOf node
decreasing_by exact sizeOf_lt_of_mem_children ‹_›

theorem treeEvents_eq (b : Blacklist) (scope : Scope) (node : Node) :
    node.treeEvents b scope = Step.events b ⟨.enter, node, []⟩ scope ++
      node.children.flatMap (treeEvents b (node.inner scope)) ++
      Step.events b ⟨.exit, node, []⟩ (node.inner scope) := by
  rw [treeEvents, List.flatMap_subtype (g := treeEvents b (node.inner scope)) (fun _ _ => rfl),
    List.unattach_attach]

theorem scopeAfter_enter (node : Node) (above : List Node) (scope : Scope) :
    Step.scopeAfter ⟨.enter, node, above⟩ scope = node.inner scope := by
  cases hk : node.kind <;> simp [Step.scopeAfter, inner, isBlockStatement, hk]

theorem scopeAfter_exit (node : Node) (above : List Node) (scope : Scope) :
    Step.scopeAfter ⟨.exit, node, above⟩ (node.inner scope) = scope := by
  cases hk : node.kind <;> simp [Step.scopeAfter, inner, isBlockStatement, hk]

theorem fault_enter (node : Node) (above : List Node) (scope : Scope) :
    Step.fault ⟨.enter, node, above⟩ scope = node.visitFault := by
  cases hk : node.kind <;> simp [Step.fault, visitFault, isChecked, hk]

theorem fault_exit (node : Node) (above : List Node) (scope : Scope) :
    Step.fault ⟨.exit, node, above⟩ (node.inner scope) = none := by
  cases hk : node.kind <;> simp [Step.fault, inner, isBlockStatement, hk]

end Node

open Node

/-- A walk through some trees in one scope: either it faults as their first node that does, or it
comes to its end in that scope. -/
def Progress.Completes (p : Progress) (b : Blacklist) (scope : Scope) (trees : List Node) : Prop :=
  match (trees.flatMap occurrences).findSome? visitFault with
  | some e => p.fault = some e
  | none => p = ⟨trees.flatMap (treeEvents b scope), none, scope⟩

namespace Progress

theorem completes_flatMap {above : List Node} {trees : List Node}
    (h : ∀ tree ∈ trees, (ofSteps b scope (tree.steps above)).Completes b scope [tree]) :
    (ofSteps b scope (trees.flatMap (steps above))).Completes b scope trees := by
  induction trees with
  | nil => rfl
  | cons tree rest ih =>
    have ht := h tree List.mem_cons_self
    have hr := ih fun t ht => h t (List.mem_cons_of_mem tree ht)
    rw [List.flatMap_cons, ofSteps_append]
    unfold Completes at ht hr ⊢
    simp only [List.flatMap_cons, List.flatMap_nil, List.append_nil, List.findSome?_append] at ht ⊢
    cases hf : tree.occurrences.findSome? visitFault with
    | some e =>
      simp only [hf] at ht
      simp [andThen, ht]
    | none =>
      simp only [hf] at ht
      rw [ht, andThen_of_no_fault rfl]
      simp only [Option.none_or]
      split <;> simp_all

theorem completes_steps (b : Blacklist) (scope : Scope) (above : List Node) (root : Node) :
    (ofSteps b scope (root.steps above)).Completes b scope [root] := by
  induction root using childrenInduction generalizing above scope with
  | step root ih =>
    have hc := completes_flatMap fun child hc => ih child hc (root.inner scope) (root :: above)
    unfold Completes at hc ⊢
    rw [steps_eq, List.cons_append, ofSteps]
    simp only [List.flatMap_cons, List.flatMap_nil, List.append_nil, occurrences_eq root,
      List.findSome?_cons]
    cases hf : root.visitFault with
    | some e =>
      rw [andThen_of_fault (e := e)]
      · simp [ofStep, fault_enter, hf]
      · simp [ofStep, fault_enter, hf]
    | none =>
      rw [andThen_of_no_fault (by simp [ofStep, fault_enter, hf])]
      simp only [ofStep, scopeAfter_enter, ofSteps_append]
      cases hg : (root.children.flatMap occurrences).findSome? visitFault with
      | some e =>
        simp only [hg] at hc
        simp [andThen, hc]
      | none =>
        simp only [hg] at hc
        rw [hc, andThen_of_no_fault rfl]
        simp only [ofSteps, ofStep, andThen, fault_exit, scopeAfter_exit,
          treeEvents_eq b scope root, List.append_nil, List.append_assoc]
        rfl

end Progress

namespace Node

/-- The fault of the first node of a tree that has one, in the order of a walk. -/
def firstFault (root : Node) : Option CheckFault := root.occurrences.findSome? visitFault

theorem firstFault_eq_none {root : Node} :
    root.firstFault = none ↔ ∀ node ∈ root.occurrences, node.visitFault = none := by
  simp [firstFault]

theorem callee?_of_isChecked {node : Node} (h : node.isChecked) : node.callee?.isNone = false := by
  cases node <;> first | rfl | cases h

/-- A check that faults has found a collection in place of a name. -/
theorem visitFault_eq_some {node : Node} {e : CheckFault} :
    node.visitFault = some e ↔ node.isChecked ∧ ∃ value,
      node.componentTarget? = some value ∧ value.isCollection ∧ e = .nameNotAtomic value := by
  unfold visitFault
  by_cases hc : node.isChecked
  · rw [if_pos hc, checkFault, callee?_of_isChecked hc]
    cases ht : node.componentTarget? with
    | none => simp
    | some value =>
      cases value with
      | list items => simpa [hc, Value.isCollection] using eq_comm
      | table fields => simpa [hc, Value.isCollection] using eq_comm
      | _ => simp [Value.isCollection]
  · simp [hc]

theorem mem_params_of_componentTarget? {node : Node} {value : Value}
    (h : node.componentTarget? = some value) : ∃ loc, .string value loc ∈ node.params := by
  unfold componentTarget? at h
  split at h
  · split at h
    · rename_i first loc rest hp
      cases h
      rw [hp]
      exact ⟨loc, List.mem_cons_self⟩
    · cases h
  · cases h

theorem params_subset_children (node : Node) : node.params ⊆ node.children := by
  cases node <;> simp [params, children]

/-- A walk of a tree without a collection in place of a text does not fault. -/
theorem firstFault_eq_none_of_texts {root : Node}
    (h : ∀ value loc, .string value loc ∈ root.occurrences → value.isCollection = false) :
    root.firstFault = none := by
  rw [firstFault_eq_none]
  intro node hn
  cases hf : node.visitFault with
  | none => rfl
  | some e =>
    obtain ⟨-, value, ht, hv, -⟩ := visitFault_eq_some.mp hf
    obtain ⟨loc, hp⟩ := mem_params_of_componentTarget? ht
    have hs := h value loc (mem_occurrences_of_child (params_subset_children node hp) hn)
    rw [hs] at hv
    cases hv

theorem fault_ofSteps_steps (b : Blacklist) (scope : Scope) (above : List Node) (root : Node) :
    (Progress.ofSteps b scope (root.steps above)).fault = root.firstFault := by
  have hp := Progress.completes_steps b scope above root
  simp only [Progress.Completes, List.flatMap_cons, List.flatMap_nil, List.append_nil] at hp
  rw [firstFault]
  cases hf : root.occurrences.findSome? visitFault with
  | some e =>
    simp only [hf] at hp
    rw [hp]
  | none =>
    simp only [hf] at hp
    rw [hp]

/-- The outcome of a walk. -/
theorem exec_traverse_fst (b : Blacklist) (root : Node) (w : Walk) :
    (exec (root.traverse b.visitor) w).1 = outcome root.firstFault := by
  rw [traverse_eq_forM_steps b.visitor [] root, Progress.exec_forM_act, fault_ofSteps_steps]

theorem exec_traverse (b : Blacklist) {root : Node} (h : root.firstFault = none) (w : Walk) :
    exec (root.traverse b.visitor) w =
      (.ok (), w.advance w.scope (root.treeEvents b w.scope)) := by
  have hp := Progress.completes_steps b w.scope [] root
  rw [firstFault] at h
  simp only [Progress.Completes, List.flatMap_cons, List.flatMap_nil, List.append_nil, h] at hp
  rw [traverse_eq_forM_steps b.visitor [] root, Progress.exec_forM_act, hp]
  rfl

theorem firstFault_eq_none_of_exec {b : Blacklist} {root : Node} {w w' : Walk}
    (h : exec (root.traverse b.visitor) w = (.ok (), w')) : root.firstFault = none := by
  have hf := exec_traverse_fst b root w
  rw [h] at hf
  exact outcome_eq_ok.mp hf.symm

end Node

end TemplateLint
