import TemplateLint.Proofs.Reference

/-!
The checks of a walk, each with the names that are bound at its node. Main statement: what a rule
reports of a tree is what its checks report, one after the other.
-/

namespace TemplateLint

variable {items : List Value} {b : Blacklist} {v : Node}

/-- A node that a walk checks, and the names that are bound there. -/
structure Check where
  env : Finset String
  node : Node

namespace Node

/-- The checks of a walk in their order, where the names of the environment are bound. -/
def checks (env : Finset String) (v : Node) : List Check :=
  (if v.isChecked then [⟨Reference.inner env v, v⟩] else []) ++
    v.children.attach.flatMap fun ⟨child, _⟩ => child.checks (Reference.inner env v)
termination_by sizeOf v
decreasing_by exact sizeOf_lt_of_mem_children ‹_›

theorem checks_eq (env : Finset String) (v : Node) :
    v.checks env = (if v.isChecked then [⟨Reference.inner env v, v⟩] else []) ++
      v.children.flatMap (checks (Reference.inner env v)) := by
  rw [checks, List.flatMap_subtype (g := checks (Reference.inner env v)) (fun _ _ => rfl),
    List.unattach_attach]

/-- The nodes that are checked do not depend on what is bound. -/
theorem map_node_checks (env : Finset String) (v : Node) :
    (v.checks env).map Check.node = v.occurrences.filter isChecked := by
  induction v using childrenInduction generalizing env with
  | step v ih =>
    have hc : (v.children.flatMap (checks (Reference.inner env v))).map Check.node =
        (v.children.flatMap occurrences).filter isChecked := by
      rw [List.map_flatMap, List.filter_flatMap]
      exact List.flatMap_congr fun child hm => ih child hm _
    rw [checks_eq, occurrences_eq, List.map_append, hc, List.filter_cons]
    split <;> rfl

/-- A walk does not fault exactly when no check is given a collection in place of a name. -/
theorem firstFault_eq_none_iff_checks (env : Finset String) : v.firstFault = none ↔
    ∀ c ∈ v.checks env, ∀ value, c.node.componentTarget? = some value →
      value.isCollection = false := by
  have hmem (node : Node) : (∃ c ∈ v.checks env, c.node = node) ↔
      node ∈ v.occurrences ∧ node.isChecked := by
    rw [← List.mem_map, map_node_checks, List.mem_filter]
  rw [firstFault_eq_none]
  constructor
  · intro h c hc value ht
    obtain ⟨ho, hk⟩ := (hmem c.node).mp ⟨c, hc, rfl⟩
    by_contra hv
    have hf := visitFault_eq_some.mpr ⟨hk, value, ht, by simpa using hv, rfl⟩
    rw [h c.node ho] at hf
    cases hf
  · intro h node ho
    cases hf : node.visitFault with
    | none => rfl
    | some e =>
      obtain ⟨hk, value, ht, hv, -⟩ := visitFault_eq_some.mp hf
      obtain ⟨c, hc, rfl⟩ := (hmem node).mpr ⟨ho, hk⟩
      rw [h c hc value ht] at hv
      cases hv

end Node

namespace Check

/-- What the check against the wildcard reports. -/
def wildcardViolations (items : List Value) (source : String) (c : Check) : List Violation :=
  (Reference.wildcardFindings items c.node).map (Finding.violation source)

/-- What the check of the name that is given to the helper for components reports. -/
def namedViolations (items : List Value) (source : String) (c : Check) : List Violation :=
  (Reference.namedFindings items c.env c.node).map (Finding.violation source)

def violations (items : List Value) (source : String) (c : Check) : List Violation :=
  c.wildcardViolations items source ++ c.namedViolations items source

end Check

namespace Node

/-- What the checks of a tree report, in the order of a walk. -/
def reported (items : List Value) (source : String) (tree : Node) : List Violation :=
  (tree.checks ∅).flatMap (Check.violations items source)

/-- What the checks of a tree against the wildcard report. -/
def reportedByWildcard (items : List Value) (source : String) (tree : Node) : List Violation :=
  (tree.checks ∅).flatMap (Check.wildcardViolations items source)

end Node

namespace Reference

theorem node_eq_flatMap_checks (items : List Value) (env : Finset String) (v : Node) :
    node items env v = (v.checks env).flatMap fun c => check items c.env c.node := by
  induction v using Node.childrenInduction generalizing env with
  | step v ih =>
    have hc : v.children.flatMap (node items (inner env v)) =
        (v.children.flatMap (Node.checks (inner env v))).flatMap fun c =>
          check items c.env c.node := by
      rw [List.flatMap_assoc]
      exact List.flatMap_congr fun child hm => ih child hm _
    rw [node_eq, Node.checks_eq, List.flatMap_append, hc]
    split
    · rw [List.flatMap_singleton]
    · rfl

theorem reports_eq_reported (items : List Value) (source : String) (tree : Node) :
    reports items source tree = tree.reported items source := by
  rw [reports, node_eq_flatMap_checks, List.map_flatMap]
  refine List.flatMap_congr fun c _ => ?_
  exact List.map_append

end Reference

/-- What a rule reports of a tree in the order of its walk, or the fault that stops the walk. -/
def Rule.results (r : Rule) (tree : Node) : Except CheckFault (List Violation) :=
  (r.walk tree).1.map fun _ => r.violations (r.walk tree).2

/-- A walk without a fault reports what its checks do. -/
theorem Rule.results_of_no_fault (h : Setting.compile Rule.name (.list items) = .ok (some b))
    (source : String) (hf : v.firstFault = none) :
    Rule.results ⟨some b, source⟩ v = .ok (v.reported items source) := by
  have hw : Rule.walk ⟨some b, source⟩ v =
      (.ok (), ({} : Walk).advance [] (v.treeEvents b [])) :=
    Node.exec_traverse b hf {}
  have hfound := Node.treeEvents_findings h Scope.binds_nil v
  rw [Rule.results, hw, ← Reference.reports_eq_reported, Reference.reports, ← hfound,
    Rule.violations, Walk.findings, Walk.toList_trace_advance]
  rfl

end TemplateLint
