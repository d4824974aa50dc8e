import TemplateLint.Proofs.Loading
import TemplateLint.Syntax.Encode

/-!
Documents and trees. Main statement: the canonical document of a tree that can be loaded loads as
that tree, and whatever loads is such a tree.
-/

namespace TemplateLint

open Decode

variable {fields : Fields} {loc : Option Location}

theorem Location.decode_encode (h : fields.get? "loc" = some (Location.encode loc)) :
    Location.decode fields = .ok loc := by
  rw [decode, h]
  cases loc with
  | none => rfl
  | some l => rfl

theorem mapM_map_ok {α β : Type} {f : α → β} {g : β → Except DecodeError α} {xs : List α}
    (h : ∀ x ∈ xs, g (f x) = .ok x) : (xs.map f).mapM g = .ok xs := by
  induction xs with
  | nil => rfl
  | cons x rest ih =>
    rw [List.map_cons, List.mapM_cons, h x List.mem_cons_self,
      ih fun y hy => h y (List.mem_cons_of_mem x hy)]
    rfl

namespace Decode

theorem blockParams_encode {ns : List String}
    (h : fields.get? "blockParams" = some (Encode.names ns)) : blockParams fields = .ok ns := by
  have ht := Encode.texts?_names ns
  rw [blockParams, Fields.getD, h, Option.getD_some]
  rw [Encode.names] at ht ⊢
  simp only [ht]

theorem nodes_encode {key : String} {vs : List Node}
    (h : fields.get? key = some (.list (Encode.nodes vs)))
    (hv : ∀ v ∈ vs, node (Encode.node v) = .ok v) : nodes fields key = .ok vs := by
  rw [nodes_eq, h, Encode.nodes_eq]
  exact mapM_map_ok hv

theorem required_encode {key : String} {v : Node} (h : fields.get? key = some (Encode.node v))
    (hv : node (Encode.node v) = .ok v) : required fields key = .ok v := by
  rw [required_eq, h]
  exact hv

theorem node_encode_path (p : PathExpression) : node p.encode = .ok (.path p) := by
  obtain ⟨written, loc⟩ := p
  have hl : Location.decode [("type", .text "PathExpression"), ("original", written),
    ("loc", Location.encode loc)] = .ok loc := Location.decode_encode rfl
  rw [PathExpression.encode, node, object]
  simp only [Kind.name, hl]
  rfl

theorem path_encode {p : PathExpression} (h : fields.get? "path" = some p.encode) :
    path fields = .ok p := by
  simp only [path_eq, h, node_encode_path]
  rfl

/-- The fields of an object of a kind. -/
theorem node_encode_object {kind : Kind} {more : Fields} (loc : Option Location) :
    node (Encode.object kind more loc) =
      object (("type", .text kind.name) :: more ++ [("loc", Location.encode loc)]) := by
  rw [Encode.object, node]

theorem kind_encode (kind : Kind) (rest : Fields) :
    Kind.ofValue? (Fields.getD (("type", .text kind.name) :: rest) "type") = some kind :=
  Kind.ofName?_name kind

theorem ok_bind {α β : Type} (a : α) (f : α → Except DecodeError β) : (.ok a >>= f) = f a := rfl

theorem pairs_encode {ps : List HashPair}
    (h : fields.get? "pairs" = some (.list (Encode.allPairs ps)))
    (hp : ∀ p ∈ ps, pair (Encode.pair p) = .ok p) : pairs fields = .ok ps := by
  rw [pairs_eq, h, Encode.allPairs_eq]
  exact mapM_map_ok hp

theorem hashObject_encode {ps : List HashPair}
    (h : fields.get? "pairs" = some (.list (Encode.allPairs ps)))
    (hl : fields.get? "loc" = some (Location.encode loc))
    (hp : ∀ p ∈ ps, pair (Encode.pair p) = .ok p) : hashObject fields = .ok ⟨ps, loc⟩ := by
  rw [hashObject, pairs_encode h hp, Location.decode_encode hl]
  rfl

theorem blockObject_encode {vs : List Node} {ns : List String}
    (h : fields.get? "body" = some (.list (Encode.nodes vs)))
    (hn : fields.get? "blockParams" = some (Encode.names ns))
    (hl : fields.get? "loc" = some (Location.encode loc))
    (hv : ∀ v ∈ vs, node (Encode.node v) = .ok v) : blockObject fields = .ok ⟨vs, ns, loc⟩ := by
  rw [blockObject, nodes_encode h hv, blockParams_encode hn, Location.decode_encode hl]
  rfl

/-- A reading that gives a node made from what another one gives. -/
theorem eq_ok_of_made {α γ : Type} {x : Except DecodeError γ} {y : Except DecodeError α}
    {make : α → Node} {a : α} (inj : ∀ a b, make a = make b → a = b)
    (h : (x >>= fun _ => y >>= fun b => pure (make b)) = .ok (make a)) : y = .ok a := by
  cases x with
  | error e => cases h
  | ok c =>
    cases y with
    | error e => cases h
    | ok b => rw [inj b a (Except.ok.inj h)]

/-- What is read as the node of a hash is read as the hash. -/
theorem hashObject_of_object {g : Hash} (hk : Kind.ofValue? (fields.getD "type") = some .hash)
    (h : object fields = .ok (.hash g)) : hashObject fields = .ok g := by
  rw [object] at h
  simp only [hk] at h
  exact eq_ok_of_made (fun _ _ => Node.hash.inj) h

theorem blockObject_of_object {b : Block} (hk : Kind.ofValue? (fields.getD "type") = some .block)
    (h : object fields = .ok (.block b)) : blockObject fields = .ok b := by
  rw [object] at h
  simp only [hk] at h
  exact eq_ok_of_made (fun _ _ => Node.block.inj) h

theorem hash_encode {g : Hash} (h : fields.get? "hash" = some (Encode.hash g))
    (hg : node (Encode.hash g) = .ok (.hash g)) : hash fields = .ok g := by
  obtain ⟨ps, loc⟩ := g
  rw [Encode.hash] at h hg
  rw [node_encode_object] at hg
  simp only [hash_eq, h, Encode.object]
  exact hashObject_of_object rfl hg

theorem program_encode {b : Block} (h : fields.get? "program" = some (Encode.block b))
    (hb : node (Encode.block b) = .ok (.block b)) : program fields = .ok b := by
  obtain ⟨body, names, loc⟩ := b
  rw [Encode.block] at h hb
  rw [node_encode_object] at hb
  simp only [program_eq, h, Encode.object]
  exact blockObject_of_object rfl hb

theorem inverse_encode {b : Option Block}
    (h : fields.get? "inverse" = some (Encode.optionalBlock b))
    (hb : ∀ c ∈ b, node (Encode.block c) = .ok (.block c)) : inverse fields = .ok b := by
  cases b with
  | none =>
    simp only [inverse_eq, h, Encode.optionalBlock]
  | some b =>
    have hb := hb b rfl
    obtain ⟨body, names, loc⟩ := b
    rw [Encode.optionalBlock, Encode.block] at h
    rw [Encode.block, node_encode_object] at hb
    simp only [inverse_eq, h, Encode.object]
    have ho := blockObject_of_object rfl hb
    simp only [List.cons_append] at ho ⊢
    rw [ho]
    rfl

end Decode

namespace Node

variable {v callee value : Node} {body params parts : List Node} {p : PathExpression} {g : Hash}

/-- The canonical document of a node is read as the node. -/
def RoundTrips (v : Node) : Prop := Decode.node (Encode.node v) = .ok v

theorem roundTrips_template (names : List String) (loc : Option Location)
    (hb : ∀ v ∈ body, v.RoundTrips) : (template body names loc).RoundTrips := by
  rw [RoundTrips, Encode.node, node_encode_object, object, Location.decode_encode rfl]
  simp only [kind_encode, List.cons_append, ok_bind]
  rw [nodes_encode rfl hb, blockParams_encode rfl]
  rfl

theorem roundTrips_block (names : List String) (loc : Option Location)
    (hb : ∀ v ∈ body, v.RoundTrips) : (block ⟨body, names, loc⟩).RoundTrips := by
  rw [RoundTrips, Encode.node_block, Encode.block, node_encode_object, object,
    Location.decode_encode rfl]
  simp only [kind_encode, List.cons_append, ok_bind]
  rw [blockObject_encode rfl rfl rfl hb]
  rfl

theorem roundTrips_blockStatement {program : Block} {inverse : Option Block}
    (loc : Option Location) (hp : ∀ v ∈ params, v.RoundTrips) (hg : (hash g).RoundTrips)
    (hb : (block program).RoundTrips) (hi : ∀ b ∈ inverse, (block b).RoundTrips) :
    (blockStatement p params g program inverse loc).RoundTrips := by
  rw [RoundTrips, Encode.node, node_encode_object, object, Location.decode_encode rfl]
  simp only [kind_encode, List.cons_append, ok_bind]
  rw [path_encode rfl, nodes_encode rfl hp, hash_encode rfl hg, program_encode rfl hb,
    inverse_encode rfl hi]
  rfl

theorem roundTrips_mustacheStatement (trusting : Bool) (loc : Option Location)
    (hc : callee.RoundTrips) (hp : ∀ v ∈ params, v.RoundTrips) (hg : (hash g).RoundTrips) :
    (mustacheStatement callee params g trusting loc).RoundTrips := by
  rw [RoundTrips, Encode.node, node_encode_object, object, Location.decode_encode rfl]
  simp only [kind_encode, List.cons_append, ok_bind]
  rw [required_encode rfl hc, nodes_encode rfl hp, hash_encode rfl hg]
  rfl

theorem roundTrips_subExpression (loc : Option Location) (hp : ∀ v ∈ params, v.RoundTrips)
    (hg : (hash g).RoundTrips) : (subExpression p params g loc).RoundTrips := by
  rw [RoundTrips, Encode.node, node_encode_object, object, Location.decode_encode rfl]
  simp only [kind_encode, List.cons_append, ok_bind]
  rw [path_encode rfl, nodes_encode rfl hp, hash_encode rfl hg]
  rfl

theorem roundTrips_elementModifier (loc : Option Location) (hp : ∀ v ∈ params, v.RoundTrips)
    (hg : (hash g).RoundTrips) : (elementModifier p params g loc).RoundTrips := by
  rw [RoundTrips, Encode.node, node_encode_object, object, Location.decode_encode rfl]
  simp only [kind_encode, List.cons_append, ok_bind]
  rw [path_encode rfl, nodes_encode rfl hp, hash_encode rfl hg]
  rfl

theorem roundTrips_hash {ps : List HashPair} (loc : Option Location)
    (hp : ∀ p ∈ ps, Decode.pair (Encode.pair p) = .ok p) : (hash ⟨ps, loc⟩).RoundTrips := by
  rw [RoundTrips, Encode.node_hash, Encode.hash, node_encode_object, object,
    Location.decode_encode rfl]
  simp only [kind_encode, List.cons_append, ok_bind]
  rw [hashObject_encode rfl rfl hp]
  rfl

theorem pair_encode (key : String) (loc : Option Location) (hv : value.RoundTrips) :
    Decode.pair (Encode.pair ⟨key, value, loc⟩) = .ok ⟨key, value, loc⟩ := by
  have hk : require [("type", .text Kind.hashPair.name), ("key", .text key),
    ("value", Encode.node value), ("loc", Location.encode loc)] "key" = .ok (.text key) := rfl
  rw [Encode.pair, Encode.object, Decode.pair]
  simp only [List.cons_append, List.nil_append, hk, ok_bind]
  rw [required_encode rfl hv, Location.decode_encode rfl]
  rfl

theorem roundTrips_element {attributes modifiers children : List Node} (tag : Value)
    (names : List String) (selfClosing : Bool) (loc : Option Location)
    (ha : ∀ v ∈ attributes, v.RoundTrips) (hm : ∀ v ∈ modifiers, v.RoundTrips)
    (hc : ∀ v ∈ children, v.RoundTrips) :
    (element tag attributes modifiers children names selfClosing loc).RoundTrips := by
  rw [RoundTrips, Encode.node, node_encode_object, object, Location.decode_encode rfl]
  simp only [kind_encode, List.cons_append, ok_bind]
  rw [nodes_encode rfl ha, nodes_encode rfl hm, nodes_encode rfl hc, blockParams_encode rfl]
  rfl

theorem roundTrips_attr (name : Value) (loc : Option Location) (hv : value.RoundTrips) :
    (attr name value loc).RoundTrips := by
  rw [RoundTrips, Encode.node, node_encode_object, object, Location.decode_encode rfl]
  simp only [kind_encode, List.cons_append, ok_bind]
  rw [required_encode rfl hv]
  rfl

theorem roundTrips_concat (loc : Option Location) (hp : ∀ v ∈ parts, v.RoundTrips) :
    (concat parts loc).RoundTrips := by
  rw [RoundTrips, Encode.node, node_encode_object, object, Location.decode_encode rfl]
  simp only [kind_encode, List.cons_append, ok_bind]
  rw [nodes_encode rfl hp]
  rfl

theorem WellFormed.loadable_child (h : v.WellFormed) (hk : v.kind ≠ .hash) :
    ∀ child ∈ v.children, child.Loadable := by
  obtain ⟨hn, hw⟩ := wellFormed_iff.mp h
  exact fun child hc => ⟨hw child hc, hn hk child hc⟩

/-- A pair is read where it stands in a hash, and any other tree by itself. -/
theorem WellFormed.roundTrips (h : v.WellFormed) :
    match v with
    | .hashPair p => Decode.pair (Encode.pair p) = .ok p
    | v => v.RoundTrips := by
  induction v using childrenInduction with
  | step v ih =>
    have hc (hk : v.kind ≠ .hash) : ∀ child ∈ v.children, child.RoundTrips := by
      intro child hm
      obtain ⟨hw, hn⟩ := h.loadable_child hk child hm
      have hr := ih child hm hw
      cases child with
      | hashPair p => exact (hn rfl).elim
      | _ => exact hr
    cases v with
    | hash g =>
      obtain ⟨ps, loc⟩ := g
      refine roundTrips_hash loc fun p hp => ?_
      have hm : hashPair p ∈ (hash ⟨ps, loc⟩).children := List.mem_map_of_mem hp
      exact ih (hashPair p) hm ((wellFormed_iff.mp h).2 _ hm)
    | hashPair p =>
      obtain ⟨key, value, loc⟩ := p
      exact pair_encode key loc (hc Kind.noConfusion value List.mem_cons_self)
    | template body names loc => exact roundTrips_template names loc (hc Kind.noConfusion)
    | block b =>
      obtain ⟨body, names, loc⟩ := b
      exact roundTrips_block names loc (hc Kind.noConfusion)
    | blockStatement p params g program inverse loc =>
      have hc := hc Kind.noConfusion
      refine roundTrips_blockStatement loc ?_ ?_ ?_ ?_
      · exact fun v hv => hc v (by simp [children, hv])
      · exact hc (hash g) (by simp [children])
      · exact hc (block program) (by simp [children])
      · rintro b ⟨⟩
        exact hc (block b) (by simp [children])
    | mustacheStatement callee params g trusting loc =>
      have hc := hc Kind.noConfusion
      refine roundTrips_mustacheStatement trusting loc (hc callee List.mem_cons_self) ?_ ?_
      · exact fun v hv => hc v (by simp [children, hv])
      · exact hc (hash g) (by simp [children])
    | subExpression p params g loc =>
      have hc := hc Kind.noConfusion
      refine roundTrips_subExpression loc ?_ ?_
      · exact fun v hv => hc v (by simp [children, hv])
      · exact hc (hash g) (by simp [children])
    | elementModifier p params g loc =>
      have hc := hc Kind.noConfusion
      refine roundTrips_elementModifier loc ?_ ?_
      · exact fun v hv => hc v (by simp [children, hv])
      · exact hc (hash g) (by simp [children])
    | path p => exact node_encode_path p
    | element tag attributes modifiers content names selfClosing loc =>
      have hc := hc Kind.noConfusion
      refine roundTrips_element tag names selfClosing loc ?_ ?_ ?_ <;>
        exact fun v hv => hc v (by simp [children, hv])
    | attr name value loc => exact roundTrips_attr name loc (hc Kind.noConfusion value List.mem_cons_self)
    | concat parts loc => exact roundTrips_concat loc (hc Kind.noConfusion)
    | _ loc =>
      change Decode.node (Encode.node _) = _
      rw [Encode.node, node_encode_object, object, Location.decode_encode rfl]
      simp only [kind_encode, List.cons_append, ok_bind]
      rfl

theorem Loadable.roundTrips (h : v.Loadable) : Node.decode v.encode = .ok v := by
  have hr := h.1.roundTrips
  cases v with
  | hashPair p => exact (h.2 rfl).elim
  | _ => exact hr

end Node

/-- The canonical document of a tree that can be loaded loads as that tree. Whatever loads is such a
tree, so that writing it and reading it again gives it back. -/
theorem decode_encode_roundTrip :
    (∀ tree : Node, tree.WellFormed → tree.kind ≠ .hashPair →
      Node.decode tree.encode = .ok tree) ∧
    ∀ document tree, Node.decode document = .ok tree →
      tree.WellFormed ∧ tree.kind ≠ .hashPair ∧ Node.decode tree.encode = .ok tree := by
  refine ⟨fun tree hw hk => Node.Loadable.roundTrips ⟨hw, hk⟩, ?_⟩
  intro document tree h
  have hn := Loads.node document
  rw [← Node.decode, h] at hn
  obtain ⟨-, hl, -⟩ := hn
  exact ⟨hl.1, hl.2, hl.roundTrips⟩

/-- A template of a block statement with an empty else block, around an element with a quoted
attribute. -/
def listTemplate : Node :=
  .template [.blockStatement ⟨.text "each", none⟩ [.path ⟨.text "items", none⟩]
    ⟨[⟨"key", .string (.text "id") none, none⟩], none⟩
    ⟨[.element (.text "li") [.attr (.text "class") (.concat [.text (.text "a ") none] none) none]
      [] [.mustacheStatement (.path ⟨.text "item", none⟩) [] .empty true none] ["row"] false none],
      ["item"], none⟩
    (some .empty) (some ⟨⟨1, 0⟩, ⟨3, 9⟩⟩)] [] none

theorem wellFormed_listTemplate : listTemplate.WellFormed := by
  simp [Node.WellFormed, listTemplate, Node.occurrences_eq, Node.children, Node.kind, Hash.empty,
    Block.empty]

theorem decode_encode_roundTrip_listTemplate :
    Node.decode listTemplate.encode = .ok listTemplate :=
  decode_encode_roundTrip.1 listTemplate wellFormed_listTemplate Kind.noConfusion

end TemplateLint
