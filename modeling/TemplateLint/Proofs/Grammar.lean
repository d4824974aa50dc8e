import TemplateLint.Proofs.FieldReadings
import TemplateLint.Proofs.Steps

/-!
The grammar of the documents of syntax trees, and the form of the trees. Main statement: a document
without an infinite number loads exactly when it derives from the grammar, and else it is refused
as malformed.
-/

namespace TemplateLint

/-- Pairs stand in the hashes that they belong to. What else a tree has to be is in its type: which
children are paths, blocks and hashes, and that names are texts and positions are integers. -/
def Node.WellFormed (root : Node) : Prop :=
  ∀ parent ∈ root.occurrences, parent.kind ≠ .hash →
    ∀ child ∈ parent.children, child.kind ≠ .hashPair

/-- Well formed, and no pair by itself. -/
def Node.Loadable (v : Node) : Prop := v.WellFormed ∧ v.kind ≠ .hashPair

namespace Node

variable {root : Node}

theorem wellFormed_iff : root.WellFormed ↔
    (root.kind ≠ .hash → ∀ child ∈ root.children, child.kind ≠ .hashPair) ∧
      ∀ child ∈ root.children, child.WellFormed := by
  unfold WellFormed
  rw [occurrences_eq, List.forall_mem_cons]
  refine and_congr_right fun _ => ⟨fun h child hc parent hp => ?_, fun h parent hp => ?_⟩
  · exact h parent (List.mem_flatMap.mpr ⟨child, hc, hp⟩)
  · obtain ⟨child, hc, hp⟩ := List.mem_flatMap.mp hp
    exact h child hc parent hp

theorem wellFormed_of_loadable (h : ∀ child ∈ root.children, child.Loadable) :
    root.WellFormed :=
  wellFormed_iff.mpr ⟨fun _ child hc => (h child hc).2, fun child hc => (h child hc).1⟩

theorem wellFormed_of_no_children (h : root.children = []) : root.WellFormed := by
  refine wellFormed_of_loadable fun child hc => ?_
  rw [h] at hc
  cases hc

theorem wellFormed_hash {g : Hash} (h : ∀ p ∈ g.pairs, (hashPair p).WellFormed) :
    (hash g).WellFormed := by
  refine wellFormed_iff.mpr ⟨fun hk => (hk rfl).elim, fun child hc => ?_⟩
  obtain ⟨p, hp, rfl⟩ := List.mem_map.mp hc
  exact h p hp

theorem loadable_path (p : PathExpression) : (path p).Loadable :=
  ⟨wellFormed_of_no_children rfl, Kind.noConfusion⟩

/-- The callee, the positional and the named arguments of an invocation. -/
theorem loadable_arguments {callee : Node} {params : List Node} {g : Hash}
    (hc : callee.Loadable) (hp : ∀ v ∈ params, v.Loadable) (hg : (hash g).WellFormed) :
    ∀ v ∈ callee :: params ++ [hash g], v.Loadable := by
  intro v hv
  simp only [List.cons_append, List.mem_cons, List.mem_append, List.not_mem_nil, or_false] at hv
  rcases hv with rfl | hv | rfl
  · exact hc
  · exact hp v hv
  · exact ⟨hg, Kind.noConfusion⟩

theorem loadable_blocks {program : Block} {inverse : Option Block}
    (hp : (block program).WellFormed) (hi : ∀ b ∈ inverse, (block b).WellFormed) :
    ∀ v ∈ block program :: inverse.toList.map block, v.Loadable := by
  intro v hv
  rcases List.mem_cons.mp hv with rfl | hv
  · exact ⟨hp, Kind.noConfusion⟩
  · obtain ⟨b, hb, rfl⟩ := List.mem_map.mp hv
    exact ⟨hi b (Option.mem_toList.mp hb), Kind.noConfusion⟩

end Node

mutual

/-- Whether no number in a value is infinite. -/
def Value.isFinite : Value → Bool
  | .float (.infinite _) => false
  | .list items => itemsFinite items
  | .table fields => fieldsFinite fields
  | _ => true

def Value.itemsFinite : List Value → Bool
  | [] => true
  | v :: rest => v.isFinite && itemsFinite rest

def Value.fieldsFinite : List (String × Value) → Bool
  | [] => true
  | (_, v) :: rest => v.isFinite && fieldsFinite rest

end

/-- What a value has to be. -/
inductive Symbol where
  | anything
  | text
  | node
  | path
  | nodes
  | names
  | hash
  | pairs
  | pair
  | block
  deriving DecidableEq, Repr

/-- What the field of an object has to be. Where it need not be there, an absent field counts as
null. -/
structure Requirement where
  key : String
  symbol : Symbol
  isNeeded : Bool := false
  deriving DecidableEq, Repr

namespace Symbol

def hashFields : List Requirement := [⟨"pairs", .pairs, false⟩]

def pairFields : List Requirement := [⟨"key", .text, true⟩, ⟨"value", .node, true⟩]

def blockFields : List Requirement := [⟨"body", .nodes, false⟩, ⟨"blockParams", .names, false⟩]

end Symbol

/-- The fields of the objects of a kind. No object is a pair by its type. -/
def Kind.fields? : Kind → Option (List Requirement)
  | template | block => some Symbol.blockFields
  | blockStatement =>
    some [⟨"path", .path, true⟩, ⟨"params", .nodes, false⟩, ⟨"hash", .hash, false⟩,
      ⟨"program", .block, true⟩, ⟨"inverse", .block, false⟩]
  | mustacheStatement =>
    some [⟨"path", .node, true⟩, ⟨"params", .nodes, false⟩, ⟨"hash", .hash, false⟩]
  | subExpression | elementModifier =>
    some [⟨"path", .path, true⟩, ⟨"params", .nodes, false⟩, ⟨"hash", .hash, false⟩]
  | path => some [⟨"original", .anything, true⟩]
  | string | number | boolean => some [⟨"value", .anything, true⟩]
  | null | undefined | text | comment | mustacheComment => some []
  | hash => some Symbol.hashFields
  | hashPair => none
  | element =>
    some [⟨"tag", .anything, true⟩, ⟨"attributes", .nodes, false⟩, ⟨"modifiers", .nodes, false⟩,
      ⟨"children", .nodes, false⟩, ⟨"blockParams", .names, false⟩]
  | attr => some [⟨"name", .anything, true⟩, ⟨"value", .node, true⟩]
  | concat => some [⟨"parts", .nodes, false⟩]

/-- The fields that have to be there are. -/
def Fields.Has (fields : Fields) (required : List Requirement) : Prop :=
  ∀ r ∈ required, r.isNeeded → ∃ v, fields.get? r.key = some v

/-- The grammar of documents. Null and all else that counts as false stands for a hash, and for the
pairs of one; only null stands for nodes, for names and for a block. The type of an object is looked
at where a node is asked for, and nowhere else. -/
inductive Derives : Symbol → Value → Prop
  | anything (v : Value) : Derives .anything v
  | text (s : String) : Derives .text (.text s)
  | node {fields : Fields} {kind : Kind} {required : List Requirement}
      (hk : Kind.ofValue? (fields.getD "type") = some kind) (hf : kind.fields? = some required)
      (hh : fields.Has required) (hd : ∀ r ∈ required, Derives r.symbol (fields.getD r.key)) :
      Derives .node (.table fields)
  | path {v : Value} (hk : Kind.ofValue? (v.field "type") = some .path) (hd : Derives .node v) :
      Derives .path v
  | noNodes : Derives .nodes .null
  | nodes {items : List Value} (hd : ∀ v ∈ items, Derives .node v) : Derives .nodes (.list items)
  | noNames : Derives .names .null
  | names {items : List Value} (hd : ∀ v ∈ items, Derives .text v) : Derives .names (.list items)
  | noHash {v : Value} (hv : v.truthy = false) : Derives .hash v
  | hash {fields : Fields} (hh : fields.Has Symbol.hashFields)
      (hd : ∀ r ∈ Symbol.hashFields, Derives r.symbol (fields.getD r.key)) :
      Derives .hash (.table fields)
  | noPairs {v : Value} (hv : v.truthy = false) : Derives .pairs v
  | pairs {items : List Value} (hd : ∀ v ∈ items, Derives .pair v) : Derives .pairs (.list items)
  | pair {fields : Fields} (hh : fields.Has Symbol.pairFields)
      (hd : ∀ r ∈ Symbol.pairFields, Derives r.symbol (fields.getD r.key)) :
      Derives .pair (.table fields)
  | noBlock : Derives .block .null
  | block {fields : Fields} (hh : fields.Has Symbol.blockFields)
      (hd : ∀ r ∈ Symbol.blockFields, Derives r.symbol (fields.getD r.key)) :
      Derives .block (.table fields)

namespace Derives

variable {v : Value} {fields : Fields} {items : List Value} {kind : Kind}

theorem node_iff (hk : Kind.ofValue? (fields.getD "type") = some kind) :
    Derives .node (.table fields) ↔ ∃ required, kind.fields? = some required ∧
      ∀ r ∈ required, (r.isNeeded → ∃ v, fields.get? r.key = some v) ∧
        Derives r.symbol (fields.getD r.key) := by
  constructor
  · intro h
    cases h with
    | node hk' hf hh hd =>
      cases hk.symm.trans hk'
      exact ⟨_, hf, fun r hr => ⟨hh r hr, hd r hr⟩⟩
  · rintro ⟨required, hf, h⟩
    exact .node hk hf (fun r hr => (h r hr).1) fun r hr => (h r hr).2

theorem path_iff : Derives .path v ↔
    Kind.ofValue? (v.field "type") = some .path ∧ Derives .node v := by
  constructor
  · intro h
    cases h with
    | path hk hd => exact ⟨hk, hd⟩
  · rintro ⟨hk, hd⟩
    exact .path hk hd

theorem nodes_list_iff : Derives .nodes (.list items) ↔ ∀ v ∈ items, Derives .node v := by
  constructor
  · intro h
    cases h with
    | nodes hd => exact hd
  · exact .nodes

theorem names_list_iff : Derives .names (.list items) ↔ ∀ v ∈ items, Derives .text v := by
  constructor
  · intro h
    cases h with
    | names hd => exact hd
  · exact .names

/-- An empty object counts as false, and without pairs it derives as one that does not. -/
theorem hash_table_iff :
    Derives .hash (.table fields) ↔ Derives .pairs (fields.getD "pairs") := by
  constructor
  · intro h
    cases h with
    | noHash hv =>
      have hn : fields = [] := by simpa [Value.truthy] using hv
      rw [hn]
      exact .noPairs rfl
    | hash hh hd => exact hd _ List.mem_cons_self
  · intro h
    exact .hash (by simp [Fields.Has, Symbol.hashFields]) (by simpa [Symbol.hashFields] using h)

theorem hash_iff_falsy (hv : ∀ fields, v ≠ .table fields) :
    Derives .hash v ↔ v.truthy = false := by
  constructor
  · intro h
    cases h with
    | noHash hv => exact hv
    | hash hh hd => exact (hv _ rfl).elim
  · exact .noHash

theorem pairs_iff_falsy (hv : ∀ items, v ≠ .list items) :
    Derives .pairs v ↔ v.truthy = false := by
  constructor
  · intro h
    cases h with
    | noPairs hv => exact hv
    | pairs hd => exact (hv _ rfl).elim
  · exact .noPairs

theorem pairs_list_iff : Derives .pairs (.list items) ↔ ∀ v ∈ items, Derives .pair v := by
  constructor
  · intro h
    cases h with
    | noPairs hv =>
      have hn : items = [] := by simpa [Value.truthy] using hv
      rw [hn]
      simp
    | pairs hd => exact hd
  · exact .pairs

theorem text_iff : Derives .text v ↔ ∃ s, v = .text s := by
  constructor
  · intro h
    cases h with
    | text s => exact ⟨s, rfl⟩
  · rintro ⟨s, rfl⟩
    exact .text s

theorem pair_table_iff : Derives .pair (.table fields) ↔
    (∃ key, fields.get? "key" = some (.text key)) ∧
      (∃ v, fields.get? "value" = some v) ∧ Derives .node (fields.getD "value") := by
  constructor
  · intro h
    cases h with
    | pair hh hd =>
      simp only [Fields.Has, Symbol.pairFields, List.forall_mem_cons, forall_const] at hh hd
      obtain ⟨v, hv⟩ := hh.1
      obtain ⟨s, hs⟩ := text_iff.mp hd.1
      rw [Fields.getD, hv, Option.getD_some] at hs
      exact ⟨⟨s, hs ▸ hv⟩, hh.2.1, hd.2.1⟩
  · rintro ⟨⟨s, hs⟩, hv, hd⟩
    have ht : Derives .text (fields.getD "key") := by
      rw [Fields.getD, hs]
      exact .text s
    refine .pair ?_ ?_
    · simpa [Fields.Has, Symbol.pairFields, hs] using hv
    · simpa [Symbol.pairFields] using ⟨ht, hd⟩

theorem block_table_iff : Derives .block (.table fields) ↔
    Derives .nodes (fields.getD "body") ∧ Derives .names (fields.getD "blockParams") := by
  constructor
  · intro h
    cases h with
    | block hh hd => simpa [Symbol.blockFields] using hd
  · intro h
    exact .block (by simp [Fields.Has, Symbol.blockFields]) (by simpa [Symbol.blockFields] using h)

end Derives

end TemplateLint
