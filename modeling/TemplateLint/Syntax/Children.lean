import TemplateLint.Syntax.Node

/-! The direct children of a node in source order. Main statement: a child is smaller. -/

namespace TemplateLint.Node

def children : Node → List Node
  | template body _ _ => body
  | block b => b.body
  | blockStatement p params h program inverse _ =>
    path p :: params ++ hash h :: block program :: inverse.toList.map block
  | mustacheStatement callee params h _ _ => callee :: params ++ [hash h]
  | subExpression p params h _ => path p :: params ++ [hash h]
  | elementModifier p params h _ => path p :: params ++ [hash h]
  | hash h => h.pairs.map hashPair
  | hashPair p => [p.value]
  | element _ attributes modifiers children _ _ _ => attributes ++ modifiers ++ children
  | attr _ value _ => [value]
  | concat parts _ => parts
  | _ => []

theorem sizeOf_lt_of_mem_children {child parent : Node} (h : child ∈ parent.children) :
    sizeOf child < sizeOf parent := by
  have inList {l : List Node} : child ∈ l → sizeOf child < sizeOf l := List.sizeOf_lt_of_mem
  have pos (l : List Node) : 0 < sizeOf l := by
    cases l <;> simp only [List.nil.sizeOf_spec, List.cons.sizeOf_spec] <;> omega
  cases parent with
  | template body =>
    have := inList (l := body) h
    simp only [template.sizeOf_spec]; omega
  | block b =>
    have := inList (l := b.body) h
    cases b
    simp only [block.sizeOf_spec, Block.mk.sizeOf_spec] at this ⊢; omega
  | blockStatement p params g program inverse =>
    cases inverse <;>
      simp only [children, Option.toList, List.map_nil, List.map_cons, List.cons_append,
        List.mem_cons, List.mem_append, List.not_mem_nil, or_false] at h
    · rcases h with rfl | h | rfl | rfl <;> try have := inList h
      all_goals simp only [blockStatement.sizeOf_spec, path.sizeOf_spec, hash.sizeOf_spec,
        block.sizeOf_spec, Option.none.sizeOf_spec]; omega
    · rcases h with rfl | h | rfl | rfl | rfl <;> try have := inList h
      all_goals simp only [blockStatement.sizeOf_spec, path.sizeOf_spec, hash.sizeOf_spec,
        block.sizeOf_spec, Option.some.sizeOf_spec]; omega
  | mustacheStatement callee params g =>
    have := pos params
    simp only [children, List.cons_append, List.mem_cons, List.mem_append, List.not_mem_nil,
      or_false] at h
    rcases h with rfl | h | rfl <;> try have := inList h
    all_goals simp only [mustacheStatement.sizeOf_spec, hash.sizeOf_spec]; omega
  | subExpression p params g =>
    have := pos params
    simp only [children, List.cons_append, List.mem_cons, List.mem_append, List.not_mem_nil,
      or_false] at h
    rcases h with rfl | h | rfl <;> try have := inList h
    all_goals simp only [subExpression.sizeOf_spec, path.sizeOf_spec, hash.sizeOf_spec]; omega
  | elementModifier p params g =>
    have := pos params
    simp only [children, List.cons_append, List.mem_cons, List.mem_append, List.not_mem_nil,
      or_false] at h
    rcases h with rfl | h | rfl <;> try have := inList h
    all_goals simp only [elementModifier.sizeOf_spec, path.sizeOf_spec, hash.sizeOf_spec]; omega
  | hash g =>
    obtain ⟨p, hp, rfl⟩ := List.mem_map.1 h
    have := List.sizeOf_lt_of_mem hp
    cases g
    simp only [hash.sizeOf_spec, hashPair.sizeOf_spec, Hash.mk.sizeOf_spec] at this ⊢; omega
  | hashPair p =>
    cases List.mem_singleton.1 h
    cases p
    simp only [hashPair.sizeOf_spec, HashPair.mk.sizeOf_spec]; omega
  | element tag attributes modifiers content =>
    simp only [children, List.mem_append] at h
    rcases h with (h | h) | h <;> have := inList h <;> simp only [element.sizeOf_spec] <;> omega
  | attr name value =>
    cases List.mem_singleton.1 h
    simp only [attr.sizeOf_spec]; omega
  | concat parts =>
    have := inList (l := parts) h
    simp only [concat.sizeOf_spec]; omega
  | _ => cases h

/-- A property holds of every node when it passes from the children of a node to the node. -/
theorem childrenInduction {motive : Node → Prop}
    (step : ∀ node, (∀ child ∈ node.children, motive child) → motive node) (node : Node) :
    motive node :=
  step node fun child _ => childrenInduction step child
termination_by sizeOf node
decreasing_by exact sizeOf_lt_of_mem_children ‹_›

end TemplateLint.Node
