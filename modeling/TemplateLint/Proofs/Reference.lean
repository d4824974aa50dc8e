import Mathlib.Data.Finset.Basic
import TemplateLint.Proofs.CompiledBlacklist
import TemplateLint.Proofs.LintTotality
import TemplateLint.Proofs.ViolationOrder

/-!
Linting without a walk: a plain recursion over the tree with the set of the names that are bound.
Main statement: linting gives what this recursion finds, sorted by place.
-/

namespace TemplateLint

variable {items : List Value} {b : Blacklist} {scope : Scope} {env : Finset String} {v : Node}

namespace Reference

/-- The text that the helper for components is given as its first argument. -/
def target? (v : Node) : Option String :=
  match v.invokedName?, v.params with
  | some "component", .string (.text name) _ :: _ => some name
  | _, _ => none

/-- Whether the setting lists the name, and the invocation passes what its last entry asks for. -/
def counts (items : List Value) (name : String) (v : Node) : Bool :=
  match lastAttributes? items name with
  | none => false
  | some attributes => attributes.all fun a => a ∈ v.hashKeys

def wildcardFindings (items : List Value) (v : Node) : List Finding :=
  if counts items "*" v then [⟨v, "wildcard"⟩] else []

def namedFindings (items : List Value) (env : Finset String) (v : Node) : List Finding :=
  match target? v with
  | none => []
  | some name =>
    if name ≠ "*" ∧ counts items name v ∧ nameHead name ∉ env then [⟨v, name⟩] else []

def check (items : List Value) (env : Finset String) (v : Node) : List Finding :=
  wildcardFindings items v ++ namedFindings items env v

def path (_ : PathExpression) : List Finding := []

mutual

/-- What is found in a tree where the names of the environment are bound. -/
def node (items : List Value) (env : Finset String) : Node → List Finding
  | .template body _ _ => nodes items env body
  | .block b => block items env b
  | .blockStatement p params h program inverse loc =>
    let inner := env ∪ program.blockParams.toFinset
    check items inner (.blockStatement p params h program inverse loc) ++ path p ++
      nodes items inner params ++ hash items inner h ++ block items inner program ++
      optionalBlock items inner inverse
  | .mustacheStatement callee params h trusting loc =>
    check items env (.mustacheStatement callee params h trusting loc) ++ node items env callee ++
      nodes items env params ++ hash items env h
  | .subExpression p params h loc =>
    check items env (.subExpression p params h loc) ++ path p ++ nodes items env params ++
      hash items env h
  | .elementModifier p params h _ => path p ++ nodes items env params ++ hash items env h
  | .path p => path p
  | .hash h => hash items env h
  | .hashPair p => pair items env p
  | .element _ attributes modifiers children _ _ _ =>
    nodes items env attributes ++ nodes items env modifiers ++ nodes items env children
  | .attr _ value _ => node items env value
  | .concat parts _ => nodes items env parts
  | .string .. | .number .. | .boolean .. | .null _ | .undefined _ => []
  | .text .. | .comment .. | .mustacheComment .. => []

def nodes (items : List Value) (env : Finset String) : List Node → List Finding
  | [] => []
  | v :: rest => node items env v ++ nodes items env rest

def block (items : List Value) (env : Finset String) : Block → List Finding
  | ⟨body, _, _⟩ => nodes items env body

def optionalBlock (items : List Value) (env : Finset String) : Option Block → List Finding
  | none => []
  | some b => block items env b

def hash (items : List Value) (env : Finset String) : Hash → List Finding
  | ⟨pairs, _⟩ => allPairs items env pairs

def allPairs (items : List Value) (env : Finset String) : List HashPair → List Finding
  | [] => []
  | p :: rest => pair items env p ++ allPairs items env rest

def pair (items : List Value) (env : Finset String) : HashPair → List Finding
  | ⟨_, value, _⟩ => node items env value

end

/-- The names that are bound below a node. -/
def inner (env : Finset String) (v : Node) : Finset String :=
  if v.isBlockStatement then env ∪ v.binds.toFinset else env

theorem nodes_eq (items : List Value) (env : Finset String) (vs : List Node) :
    nodes items env vs = vs.flatMap (node items env) := by
  induction vs with
  | nil => rfl
  | cons v rest ih => rw [nodes, ih, List.flatMap_cons]

theorem allPairs_eq (items : List Value) (env : Finset String) (ps : List HashPair) :
    allPairs items env ps = (ps.map Node.hashPair).flatMap (node items env) := by
  induction ps with
  | nil => rfl
  | cons p rest ih => rw [allPairs, ih, List.map_cons, List.flatMap_cons, node]

theorem block_eq (items : List Value) (env : Finset String) (b : Block) :
    block items env b = b.body.flatMap (node items env) := by
  obtain ⟨body, names, loc⟩ := b
  rw [block, nodes_eq]

theorem hash_eq (items : List Value) (env : Finset String) (h : Hash) :
    hash items env h = (h.pairs.map Node.hashPair).flatMap (node items env) := by
  obtain ⟨pairs, loc⟩ := h
  rw [hash, allPairs_eq]

theorem optionalBlock_eq (items : List Value) (env : Finset String) (b : Option Block) :
    optionalBlock items env b = (b.toList.map Node.block).flatMap (node items env) := by
  cases b with
  | none => rfl
  | some b => simp [optionalBlock, node]

theorem node_eq (items : List Value) (env : Finset String) (v : Node) :
    node items env v = (if v.isChecked then check items (inner env v) v else []) ++
      v.children.flatMap (node items (inner env v)) := by
  cases v with
  | hashPair p =>
    obtain ⟨key, value, loc⟩ := p
    simp [node, pair, Node.isChecked, Node.kind, inner, Node.isBlockStatement, Node.children]
  | _ =>
    simp [node, path, nodes_eq, block_eq, hash_eq, optionalBlock_eq, Node.isChecked, Node.kind,
      inner, Node.isBlockStatement, Node.children, Node.binds]

end Reference

open Reference

/-- The frames of a scope hold the names of an environment. -/
def Scope.Binds (scope : Scope) (env : Finset String) : Prop :=
  ∀ name, (∃ frame ∈ scope, name ∈ frame.names) ↔ name ∈ env

theorem Scope.binds_nil : Scope.Binds [] ∅ := by
  intro name
  simp

theorem Scope.Binds.inner (h : scope.Binds env) (v : Node) :
    Scope.Binds (v.inner scope) (Reference.inner env v) := by
  intro name
  unfold Node.inner Reference.inner
  by_cases hb : v.isBlockStatement
  · rw [if_pos hb, if_pos hb, Finset.mem_union, List.mem_toFinset, ← h name, ← mem_names_frame,
      List.exists_mem_cons_iff]
    exact or_comm
  · rw [if_neg hb, if_neg hb]
    exact h name

theorem Scope.Binds.isLocal_iff {name : String} (h : scope.Binds env) :
    scope.isLocal name ↔ nameHead name ∈ env := by
  rw [Scope.isLocal_iff]
  exact h (nameHead name)

theorem Reference.target?_eq_some_iff {name : String} :
    target? v = some name ↔ v.componentTarget? = some (.text name) := by
  unfold target? Node.componentTarget? Node.componentHelper
  by_cases hi : v.invokedName? = some "component"
  · rw [if_pos hi, hi]
    cases v.params with
    | nil => simp
    | cons first rest =>
      cases first with
      | string value loc => cases value <;> simp
      | _ => simp
  · rw [if_neg hi]
    split
    · contradiction
    · simp

theorem Reference.counts_eq (items : List Value) (name : String) (v : Node) :
    counts items name v = (lastAttributes? items name).any v.passesAll := by
  unfold counts Node.passesAll
  cases lastAttributes? items name with
  | none => rfl
  | some attributes =>
    rw [Bool.eq_iff_iff]
    simp

namespace Blacklist

theorem wildcardCondition_holds (h : Setting.compile Rule.name (.list items) = .ok (some b))
    (v : Node) : b.wildcardCondition.holds v = counts items "*" v := by
  rw [wildcardCondition, get?_of_compile h, counts_eq, wildcard]
  cases lastAttributes? items "*" with
  | none => rfl
  | some attributes => rfl

theorem nameEvents_findings (b : Blacklist) (scope : Scope) (v : Node) (name : String) :
    (b.nameEvents scope v name).filterMap Event.finding? =
      if name ≠ "*" ∧ (b.get? name).any (·.holds v) ∧ ¬ scope.isLocal name then [⟨v, name⟩]
      else [] := by
  rw [nameEvents, wildcard]
  by_cases hn : name = "*"
  · simp [hn]
  cases b.get? name with
  | none => simp [hn]
  | some condition =>
    by_cases hc : condition.holds v
    · cases scope.isLocal name <;> simp [hn, hc, Event.finding?]
    · simp [hn, hc]

/-- What a check reports: the wildcard first, and then the name that it was given. -/
theorem checkEvents_findings (b : Blacklist) (scope : Scope) (v : Node) :
    (b.checkEvents scope v).filterMap Event.finding? =
      (if b.wildcardCondition.holds v then [⟨v, "wildcard"⟩] else []) ++
        match target? v with
        | none => []
        | some name =>
          if name ≠ "*" ∧ (b.get? name).any (·.holds v) ∧ ¬ scope.isLocal name then [⟨v, name⟩]
          else [] := by
  rw [checkEvents, List.filterMap_append]
  congr 1
  · split <;> rfl
  cases ht : target? v with
  | some name =>
    rw [target?_eq_some_iff.mp ht]
    exact nameEvents_findings b scope v name
  | none =>
    split
    · rename_i name hc
      rw [target?_eq_some_iff.mpr hc] at ht
      cases ht
    · rfl

theorem any_holds_of_compile (h : Setting.compile Rule.name (.list items) = .ok (some b))
    {name : String} (hn : name ≠ "*") (v : Node) :
    (b.get? name).any (·.holds v) = counts items name v := by
  have hb : base.get? name = none := by simp [base, Named.get?, wildcard, hn]
  rw [get?_of_compile h, hb, Option.or_none, counts_eq, Option.any_map]
  rfl

theorem checkEvents_findings_of_compile
    (h : Setting.compile Rule.name (.list items) = .ok (some b)) (hs : scope.Binds env) (v : Node) :
    (b.checkEvents scope v).filterMap Event.finding? = Reference.check items env v := by
  rw [checkEvents_findings, wildcardCondition_holds h, Reference.check, wildcardFindings,
    namedFindings]
  cases target? v with
  | none => rfl
  | some name =>
    by_cases hn : name = "*"
    · simp [hn]
    · simp [any_holds_of_compile h hn, ← hs.isLocal_iff]

end Blacklist

namespace Node

theorem enter_findings (h : Setting.compile Rule.name (.list items) = .ok (some b))
    (hs : scope.Binds env) (v : Node) :
    (Step.events b ⟨.enter, v, []⟩ scope).filterMap Event.finding? =
      if v.isChecked then Reference.check items (Reference.inner env v) v else [] := by
  have hc := Blacklist.checkEvents_findings_of_compile h (hs.inner v) v
  cases hk : v.kind <;>
    simp_all [Step.events, isChecked, Node.inner, isBlockStatement, List.filterMap_cons,
      Event.finding?]

theorem exit_findings (b : Blacklist) (scope : Scope) (v : Node) :
    (Step.events b ⟨.exit, v, []⟩ scope).filterMap Event.finding? = [] := by
  cases hk : v.kind with
  | blockStatement => by_cases hn : scope = [] <;> simp [Step.events, hk, hn, Event.finding?]
  | _ => simp [Step.events, hk]

/-- What a walk finds in a tree. -/
theorem treeEvents_findings (h : Setting.compile Rule.name (.list items) = .ok (some b))
    (hs : scope.Binds env) (v : Node) :
    (v.treeEvents b scope).filterMap Event.finding? = Reference.node items env v := by
  induction v using childrenInduction generalizing scope env with
  | step v ih =>
    have hc : (v.children.flatMap (treeEvents b (v.inner scope))).filterMap Event.finding? =
        v.children.flatMap (Reference.node items (Reference.inner env v)) := by
      rw [List.filterMap_flatMap]
      exact List.flatMap_congr fun child hm => ih child hm (hs.inner v)
    rw [treeEvents_eq, Reference.node_eq, List.filterMap_append, List.filterMap_append,
      enter_findings h hs, exit_findings, hc, List.append_nil]

end Node

namespace Reference

/-- The violations of a tree in the order in which they are found. -/
def reports (items : List Value) (source : String) (tree : Node) : List Violation :=
  (node items ∅ tree).map (Finding.violation source)

end Reference

namespace Reference

/-- A template that names a component twice: where a block binds the name, and after the block. -/
def twice : Node :=
  .template [.blockStatement ⟨.text "each", none⟩ [] .empty
    ⟨[literalMustache (.text "foo")], ["foo"], none⟩ none none,
    literalMustache (.text "foo")] [] none

theorem texts_twice :
    ∀ value loc, .string value loc ∈ twice.occurrences → value.isCollection = false := by
  intro value loc h
  have hv : value = .text "foo" ∧ loc = none := by
    simpa [Node.occurrences_eq, Node.children, twice, literalMustache, Hash.empty] using h
  rw [hv.1]
  rfl

end Reference

end TemplateLint
