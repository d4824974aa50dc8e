import TemplateLint.Proofs.LintRun

/-! Which trees can be linted to the end under which settings. -/

namespace TemplateLint

open Linter

variable {setting : Value} {blacklist : Option Blacklist} {tree : Node}

namespace Node

/-- A collection that an invocation gives to the helper for components in place of a name. -/
def collectionTarget? (node : Node) : Option Value :=
  if node.isChecked then node.componentTarget?.filter Value.isCollection else none

theorem collectionTarget?_eq_some {node : Node} {value : Value} :
    node.collectionTarget? = some value ↔
      node.isChecked ∧ node.componentTarget? = some value ∧ value.isCollection := by
  simp [collectionTarget?, Option.filter_eq_some_iff]

theorem visitFault_eq_map (node : Node) :
    node.visitFault = node.collectionTarget?.map .nameNotAtomic := by
  ext e
  rw [visitFault_eq_some, Option.map_eq_some_iff]
  constructor
  · rintro ⟨hc, value, ht, hv, rfl⟩
    exact ⟨value, collectionTarget?_eq_some.mpr ⟨hc, ht, hv⟩, rfl⟩
  · rintro ⟨value, hv, rfl⟩
    obtain ⟨hc, ht, hv⟩ := collectionTarget?_eq_some.mp hv
    exact ⟨hc, value, ht, hv, rfl⟩

end Node

/-- Under an accepted setting a tree is linted to the end exactly when the rule is off or no
invocation gives a collection in place of a name. There is no other fault. -/
theorem lint_completes_iff (h : Setting.compile Rule.name setting = .ok blacklist) (tree : Node)
    (source : String) :
    ((∃ vs, result tree [(Rule.name, setting)] source = .ok vs) ↔
      blacklist = none ∨ ∀ v ∈ tree.occurrences, v.collectionTarget? = none) ∧
    ∀ e, result tree [(Rule.name, setting)] source = .error e →
      ∃ v ∈ tree.occurrences, ∃ value, v.collectionTarget? = some value ∧
        e = .check (.nameNotAtomic value) := by
  cases blacklist with
  | none =>
    rw [result_of_off h]
    refine ⟨⟨fun _ => .inl rfl, fun _ => ⟨[], rfl⟩⟩, ?_⟩
    intro e he
    cases he
  | some b =>
    cases hf : tree.firstFault with
    | none =>
      rw [result_of_no_fault h hf]
      refine ⟨⟨fun _ => .inr ?_, fun _ => ⟨_, rfl⟩⟩, ?_⟩
      · intro v hv
        have hn := Node.firstFault_eq_none.mp hf v hv
        rwa [Node.visitFault_eq_map, Option.map_eq_none_iff] at hn
      · intro e he
        cases he
    | some e =>
      obtain ⟨v, hv, he⟩ := List.exists_of_findSome?_eq_some hf
      rw [Node.visitFault_eq_map, Option.map_eq_some_iff] at he
      obtain ⟨value, ht, rfl⟩ := he
      rw [result_of_fault h hf]
      refine ⟨⟨?_, ?_⟩, ?_⟩
      · rintro ⟨vs, hvs⟩
        cases hvs
      · rintro (hb | hn)
        · cases hb
        · rw [hn v hv] at ht
          cases ht
      · intro e he
        cases he
        exact ⟨v, hv, value, ht, rfl⟩

/-- A mustache that gives a value to the helper for components as a text literal. -/
def literalMustache (value : Value) : Node :=
  .mustacheStatement (.path ⟨.text "component", none⟩) [.string value none] .empty false none

def literalTemplate (value : Value) : Node := .template [literalMustache value] [] none

theorem occurrences_literalTemplate (value : Value) :
    (literalTemplate value).occurrences = [literalTemplate value, literalMustache value,
      .path ⟨.text "component", none⟩, .string value none, .hash .empty] := by
  simp [Node.occurrences_eq, Node.children, literalTemplate, literalMustache, Hash.empty]

theorem lint_completes_iff_literalTemplate :
    (∃ vs, result (literalTemplate (.text "x")) [(Rule.name, .bool true)] "" = .ok vs) ∧
      ¬ ∃ vs, result (literalTemplate (.list [])) [(Rule.name, .bool true)] "" = .ok vs := by
  have h : Setting.compile Rule.name (.bool true) = .ok (some .base) := rfl
  rw [(lint_completes_iff h (literalTemplate (.text "x")) "").1,
    (lint_completes_iff h (literalTemplate (.list [])) "").1, occurrences_literalTemplate,
    occurrences_literalTemplate]
  constructor
  · right
    intro v hv
    simp only [List.mem_cons, List.not_mem_nil, or_false] at hv
    rcases hv with rfl | rfl | rfl | rfl | rfl <;> rfl
  · rintro (hb | hn)
    · cases hb
    · have ht := hn (literalMustache (.list [])) (by simp)
      cases ht

/-- The document of a template with such a mustache. -/
def literalDocument (value : Value) : Value :=
  .table [("type", .text "Template"), ("body", .list [.table [
    ("type", .text "MustacheStatement"),
    ("path", .table [("type", .text "PathExpression"), ("original", .text "component")]),
    ("params", .list [.table [("type", .text "StringLiteral"), ("value", value)]])]])]

theorem decode_literalDocument (value : Value) :
    Node.decode (literalDocument value) = .ok (literalTemplate value) := by
  simp [Node.decode, literalDocument, literalTemplate, literalMustache, Decode.node, Decode.object,
    Decode.nodes, Decode.all, Decode.required, Decode.require, Decode.hash, Decode.blockParams,
    Decode.trusting, Location.decode, Kind.ofValue?, Kind.ofName?, Kind.all, Kind.name,
    Fields.getD, Named.get?, List.lookup_cons, List.lookup_nil, Value.truthy, bind, Except.bind,
    pure, Except.pure]

theorem firstFault_literalTemplate (items : List Value) :
    (literalTemplate (.list items)).firstFault = some (.nameNotAtomic (.list items)) := by
  rw [Node.firstFault, occurrences_literalTemplate]
  rfl

/-- A list that loads as a text literal, given to the helper for components, stops the run. -/
theorem lint_faults_literalDocument :
    Node.decode (literalDocument (.list [.text "x"])) =
      .ok (literalTemplate (.list [.text "x"])) ∧
    result (literalTemplate (.list [.text "x"])) [(Rule.name, .list [.text "foo"])] "" =
      .error (.check (.nameNotAtomic (.list [.text "x"]))) := by
  refine ⟨decode_literalDocument _, ?_⟩
  have h : Setting.compile Rule.name (.list [.text "foo"]) =
    .ok (some [("*", .never), ("foo", .passes [])]) := rfl
  exact result_of_fault h (firstFault_literalTemplate _)

end TemplateLint
