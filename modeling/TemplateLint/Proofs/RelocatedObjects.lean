import TemplateLint.Proofs.Relocation

/-!
The location of one place in a document and in its tree. Main statement: unless reading it faults,
it is all that it changes.
-/

namespace TemplateLint

open Decode

variable {reading : Except DecodeError (Option Location)} {fields : Fields} {loc : Value}

namespace Relocated

theorem blockObject_root (fields : Fields) (loc : Value) :
    Relocated (Location.read loc) Site.block.withLoc (blockObject (fields.put "loc" (some loc)))
      (blockObject (fields.put "loc" none)) := by
  rw [blockObject, blockObject]
  simp only [ne_eq, String.reduceEq, not_false_eq_true, nodes_put_of_ne, blockParams_put_of_ne,
    Location.decode_put, Location.decode_remove]
  refine bind_right _ fun body => bind_right _ fun names => ?_
  exact of_reading fun loc => rfl

theorem hashObject_root (fields : Fields) (loc : Value) :
    Relocated (Location.read loc) Site.hash.withLoc (hashObject (fields.put "loc" (some loc)))
      (hashObject (fields.put "loc" none)) := by
  rw [hashObject, hashObject]
  simp only [ne_eq, String.reduceEq, not_false_eq_true, pairs_put_of_ne, Location.decode_put,
    Location.decode_remove]
  refine bind_right _ fun pairs => ?_
  exact of_reading fun loc => rfl

theorem pair_root (fields : Fields) (loc : Value) :
    Relocated (Location.read loc) Site.pair.withLoc (pair (.table (fields.put "loc" (some loc))))
      (pair (.table (fields.put "loc" none))) := by
  rw [pair, pair]
  simp only [ne_eq, String.reduceEq, not_false_eq_true, require_put_of_ne, required_put_of_ne,
    Location.decode_put, Location.decode_remove]
  refine bind_right _ fun key => ?_
  cases key with
  | text key =>
    refine bind_right _ fun value => ?_
    exact of_reading fun loc => rfl
  | _ => exact of_error _

/-- A location that is read twice. -/
theorem of_reading_again (h : Relocated reading p x x') :
    Relocated reading p (reading >>= fun _ => x) x' := by
  cases reading with
  | ok loc => exact h
  | error e => exact .inl rfl

theorem object_root (fields : Fields) (loc : Value) :
    Relocated (Location.read loc) Site.node.withLoc (object (fields.put "loc" (some loc)))
      (object (fields.put "loc" none)) := by
  have hb := (blockObject_root fields loc).map (f := Node.block) (q := Site.node.withLoc)
    fun loc a => rfl
  have hh := (hashObject_root fields loc).map (f := Node.hash) (q := Site.node.withLoc)
    fun loc a => rfl
  rw [object, object]
  simp only [ne_eq, String.reduceEq, not_false_eq_true, Location.decode_put,
    Location.decode_remove, Fields.getD_put_of_ne, Named.get?_put_of_ne, require_put_of_ne,
    blockParams_put_of_ne, trusting_put_of_ne, required_put_of_ne, path_put_of_ne, nodes_put_of_ne,
    hash_put_of_ne, program_put_of_ne, inverse_put_of_ne]
  cases Kind.ofValue? (Fields.getD fields "type") with
  | none => exact of_reading fun place => rfl
  | some kind =>
    cases kind with
    | block => exact of_reading_again hb
    | hash => exact of_reading_again hh
    | hashPair => exact of_reading fun place => rfl
    | _ => exact of_reading fun place => by simp [Site.withLoc, Node.withLoc]

/-- The place is the object itself. -/
theorem root (fields : Fields) (loc : Value) (s : Site) :
    Relocated (Location.read loc) (fun l => s.withLoc l)
      (s.decode (.table (fields.put "loc" (some loc))))
      (s.decode (.table (fields.put "loc" none))) := by
  cases s with
  | node =>
    rw [Site.decode_node_table, Site.decode_node_table]
    exact object_root fields loc
  | block => exact blockObject_root fields loc
  | hash => exact hashObject_root fields loc
  | pair => exact pair_root fields loc

variable {g g' : Value → Value} {v : Value} {i : Nat} {items : List Value} {xs xs' : Fields}
  {f : Option Location → Change}

theorem blockObject_body (hi : items[i]? = some v)
    (h : Relocated reading (fun loc => f loc .node) (Node.decode (g v)) (Node.decode (g' v))) :
    Relocated reading (fun loc => Block.change (.body i) (f loc))
      (blockObject (fields.put "body" (some (.list (items.modify i g)))))
      (blockObject (fields.put "body" (some (.list (items.modify i g'))))) := by
  rw [blockObject, blockObject]
  simp only [ne_eq, String.reduceEq, not_false_eq_true, blockParams_put_of_ne,
    Location.decode_put_of_ne]
  exact (nodes_put hi h).bind_left fun loc vs => by simp [Block.change]

theorem hashObject_pairs (hi : items[i]? = some v)
    (h : Relocated reading (fun loc => f loc .pair) (pair (g v)) (pair (g' v))) :
    Relocated reading (fun loc => Hash.change (.pairs i) (f loc))
      (hashObject (fields.put "pairs" (some (.list (items.modify i g)))))
      (hashObject (fields.put "pairs" (some (.list (items.modify i g'))))) := by
  rw [hashObject, hashObject]
  simp only [ne_eq, String.reduceEq, not_false_eq_true, Location.decode_put_of_ne]
  exact (pairs_put hi h).bind_left fun loc ps => by simp [Hash.change]

theorem pair_value (h : Relocated reading (fun loc => f loc .node) (object xs) (object xs')) :
    Relocated reading (fun loc => HashPair.change .value (f loc))
      (pair (.table (fields.put "value" (some (.table xs)))))
      (pair (.table (fields.put "value" (some (.table xs'))))) := by
  rw [pair, pair]
  simp only [ne_eq, String.reduceEq, not_false_eq_true, require_put_of_ne,
    Location.decode_put_of_ne]
  refine bind_right _ fun key => ?_
  cases key with
  | text key => exact (required_put h).bind_left fun loc value => by simp [HashPair.change]
  | _ => exact of_error _

variable {kind : Kind}

/-- The path of an invocation. A mustache takes any node there, the others only a path. -/
theorem object_path (hk : Kind.ofValue? (fields.getD "type") = some kind)
    (hs : kind.target? .path = some .node) (ht : xs.getD "type" = xs'.getD "type")
    (hf : ∀ loc n, (f loc .node n).kind = n.kind)
    (h : Relocated reading (fun loc => f loc .node) (object xs) (object xs')) :
    Relocated reading (fun loc => Node.change .path (f loc))
      (object (fields.put "path" (some (.table xs))))
      (object (fields.put "path" (some (.table xs')))) := by
  rw [object, object]
  simp only [ne_eq, String.reduceEq, not_false_eq_true, Location.decode_put_of_ne,
    Fields.getD_put_of_ne, hk, nodes_put_of_ne, hash_put_of_ne, program_put_of_ne,
    inverse_put_of_ne, trusting_put_of_ne]
  refine bind_right _ fun place => ?_
  cases kind with
  | mustacheStatement => exact (required_put h).bind_left fun loc p => by simp [Node.change]
  | blockStatement | subExpression | elementModifier =>
    exact (path_put ht hf h).bind_left fun loc p => by simp [Node.change]
  | _ => cases hs

theorem object_params (hk : Kind.ofValue? (fields.getD "type") = some kind)
    (hs : kind.target? (.params i) = some .node) (hi : items[i]? = some v)
    (h : Relocated reading (fun loc => f loc .node) (Decode.node (g v)) (Decode.node (g' v))) :
    Relocated reading (fun loc => Node.change (.params i) (f loc))
      (object (fields.put "params" (some (.list (items.modify i g)))))
      (object (fields.put "params" (some (.list (items.modify i g'))))) := by
  rw [object, object]
  simp only [ne_eq, String.reduceEq, not_false_eq_true, Location.decode_put_of_ne,
    Fields.getD_put_of_ne, hk, path_put_of_ne, required_put_of_ne, hash_put_of_ne,
    program_put_of_ne, inverse_put_of_ne, trusting_put_of_ne]
  refine bind_right _ fun place => ?_
  cases kind with
  | blockStatement | mustacheStatement | subExpression | elementModifier =>
    exact bind_right _ fun p => (nodes_put hi h).bind_left fun loc ps => by simp [Node.change]
  | _ => cases hs

theorem object_hash (hk : Kind.ofValue? (fields.getD "type") = some kind)
    (hs : kind.target? .hash = some .hash)
    (h : Relocated reading (fun loc => f loc .hash) (hashObject xs) (hashObject xs')) :
    Relocated reading (fun loc => Node.change .hash (f loc))
      (object (fields.put "hash" (some (.table xs))))
      (object (fields.put "hash" (some (.table xs')))) := by
  rw [object, object]
  simp only [ne_eq, String.reduceEq, not_false_eq_true, Location.decode_put_of_ne,
    Fields.getD_put_of_ne, hk, path_put_of_ne, required_put_of_ne, nodes_put_of_ne,
    program_put_of_ne, inverse_put_of_ne, trusting_put_of_ne]
  refine bind_right _ fun place => ?_
  cases kind with
  | blockStatement | mustacheStatement | subExpression | elementModifier =>
    exact bind_right _ fun p => bind_right _ fun ps => (hash_put h).bind_left fun loc given => by
      simp [Node.change]
  | _ => cases hs

theorem object_program (hk : Kind.ofValue? (fields.getD "type") = some kind)
    (hs : kind.target? .program = some .block)
    (h : Relocated reading (fun loc => f loc .block) (blockObject xs) (blockObject xs')) :
    Relocated reading (fun loc => Node.change .program (f loc))
      (object (fields.put "program" (some (.table xs))))
      (object (fields.put "program" (some (.table xs')))) := by
  cases kind with
  | blockStatement =>
    rw [object, object]
    simp only [ne_eq, String.reduceEq, not_false_eq_true, Location.decode_put_of_ne,
      Fields.getD_put_of_ne, hk, path_put_of_ne, nodes_put_of_ne, hash_put_of_ne,
      inverse_put_of_ne]
    refine bind_right _ fun place => bind_right _ fun p => bind_right _ fun ps =>
      bind_right _ fun given => ?_
    exact (program_put h).bind_left fun loc b => by simp [Node.change]
  | _ => cases hs

theorem object_inverse (hk : Kind.ofValue? (fields.getD "type") = some kind)
    (hs : kind.target? .inverse = some .block)
    (h : Relocated reading (fun loc => f loc .block) (blockObject xs) (blockObject xs')) :
    Relocated reading (fun loc => Node.change .inverse (f loc))
      (object (fields.put "inverse" (some (.table xs))))
      (object (fields.put "inverse" (some (.table xs')))) := by
  cases kind with
  | blockStatement =>
    rw [object, object]
    simp only [ne_eq, String.reduceEq, not_false_eq_true, Location.decode_put_of_ne,
      Fields.getD_put_of_ne, hk, path_put_of_ne, nodes_put_of_ne, hash_put_of_ne,
      program_put_of_ne]
    refine bind_right _ fun place => bind_right _ fun p => bind_right _ fun ps =>
      bind_right _ fun given => bind_right _ fun b => ?_
    exact (inverse_put h).bind_left fun loc b => by simp [Node.change]
  | _ => cases hs

theorem object_body (hk : Kind.ofValue? (fields.getD "type") = some kind)
    (hs : kind.target? (.body i) = some .node) (hi : items[i]? = some v)
    (h : Relocated reading (fun loc => f loc .node) (Decode.node (g v)) (Decode.node (g' v))) :
    Relocated reading (fun loc => Node.change (.body i) (f loc))
      (object (fields.put "body" (some (.list (items.modify i g)))))
      (object (fields.put "body" (some (.list (items.modify i g'))))) := by
  rw [object, object]
  simp only [ne_eq, String.reduceEq, not_false_eq_true, Location.decode_put_of_ne,
    Fields.getD_put_of_ne, hk, blockParams_put_of_ne]
  refine bind_right _ fun place => ?_
  cases kind with
  | template => exact (nodes_put hi h).bind_left fun loc vs => by simp [Node.change]
  | block => exact (blockObject_body hi h).bind_left fun loc b => by simp [Node.change]
  | _ => cases hs

theorem object_attributes (hk : Kind.ofValue? (fields.getD "type") = some kind)
    (hs : kind.target? (.attributes i) = some .node) (hi : items[i]? = some v)
    (h : Relocated reading (fun loc => f loc .node) (Decode.node (g v)) (Decode.node (g' v))) :
    Relocated reading (fun loc => Node.change (.attributes i) (f loc))
      (object (fields.put "attributes" (some (.list (items.modify i g)))))
      (object (fields.put "attributes" (some (.list (items.modify i g'))))) := by
  cases kind with
  | element =>
    rw [object, object]
    simp only [ne_eq, String.reduceEq, not_false_eq_true, Location.decode_put_of_ne,
      Fields.getD_put_of_ne, hk, require_put_of_ne, nodes_put_of_ne, blockParams_put_of_ne]
    refine bind_right _ fun place => bind_right _ fun tag => ?_
    exact (nodes_put hi h).bind_left fun loc vs => by simp [Node.change]
  | _ => cases hs

theorem object_modifiers (hk : Kind.ofValue? (fields.getD "type") = some kind)
    (hs : kind.target? (.modifiers i) = some .node) (hi : items[i]? = some v)
    (h : Relocated reading (fun loc => f loc .node) (Decode.node (g v)) (Decode.node (g' v))) :
    Relocated reading (fun loc => Node.change (.modifiers i) (f loc))
      (object (fields.put "modifiers" (some (.list (items.modify i g)))))
      (object (fields.put "modifiers" (some (.list (items.modify i g'))))) := by
  cases kind with
  | element =>
    rw [object, object]
    simp only [ne_eq, String.reduceEq, not_false_eq_true, Location.decode_put_of_ne,
      Fields.getD_put_of_ne, hk, require_put_of_ne, nodes_put_of_ne, blockParams_put_of_ne]
    refine bind_right _ fun place => bind_right _ fun tag => bind_right _ fun attributes => ?_
    exact (nodes_put hi h).bind_left fun loc vs => by simp [Node.change]
  | _ => cases hs

theorem object_children (hk : Kind.ofValue? (fields.getD "type") = some kind)
    (hs : kind.target? (.children i) = some .node) (hi : items[i]? = some v)
    (h : Relocated reading (fun loc => f loc .node) (Decode.node (g v)) (Decode.node (g' v))) :
    Relocated reading (fun loc => Node.change (.children i) (f loc))
      (object (fields.put "children" (some (.list (items.modify i g)))))
      (object (fields.put "children" (some (.list (items.modify i g'))))) := by
  cases kind with
  | element =>
    rw [object, object]
    simp only [ne_eq, String.reduceEq, not_false_eq_true, Location.decode_put_of_ne,
      Fields.getD_put_of_ne, hk, require_put_of_ne, nodes_put_of_ne, blockParams_put_of_ne]
    refine bind_right _ fun place => bind_right _ fun tag => bind_right _ fun attributes =>
      bind_right _ fun modifiers => ?_
    exact (nodes_put hi h).bind_left fun loc vs => by simp [Node.change]
  | _ => cases hs

theorem object_value (hk : Kind.ofValue? (fields.getD "type") = some kind)
    (hs : kind.target? .value = some .node)
    (h : Relocated reading (fun loc => f loc .node) (object xs) (object xs')) :
    Relocated reading (fun loc => Node.change .value (f loc))
      (object (fields.put "value" (some (.table xs))))
      (object (fields.put "value" (some (.table xs')))) := by
  cases kind with
  | attr =>
    rw [object, object]
    simp only [ne_eq, String.reduceEq, not_false_eq_true, Location.decode_put_of_ne,
      Fields.getD_put_of_ne, hk, require_put_of_ne]
    refine bind_right _ fun place => bind_right _ fun name => ?_
    exact (required_put h).bind_left fun loc value => by simp [Node.change]
  | _ => cases hs

theorem object_parts (hk : Kind.ofValue? (fields.getD "type") = some kind)
    (hs : kind.target? (.parts i) = some .node) (hi : items[i]? = some v)
    (h : Relocated reading (fun loc => f loc .node) (Decode.node (g v)) (Decode.node (g' v))) :
    Relocated reading (fun loc => Node.change (.parts i) (f loc))
      (object (fields.put "parts" (some (.list (items.modify i g)))))
      (object (fields.put "parts" (some (.list (items.modify i g'))))) := by
  cases kind with
  | concat =>
    rw [object, object]
    simp only [ne_eq, String.reduceEq, not_false_eq_true, Location.decode_put_of_ne,
      Fields.getD_put_of_ne, hk]
    refine bind_right _ fun place => ?_
    exact (nodes_put hi h).bind_left fun loc vs => by simp [Node.change]
  | _ => cases hs

theorem object_pairs (hk : Kind.ofValue? (fields.getD "type") = some kind)
    (hs : kind.target? (.pairs i) = some .pair) (hi : items[i]? = some v)
    (h : Relocated reading (fun loc => f loc .pair) (pair (g v)) (pair (g' v))) :
    Relocated reading (fun loc => Node.change (.pairs i) (f loc))
      (object (fields.put "pairs" (some (.list (items.modify i g)))))
      (object (fields.put "pairs" (some (.list (items.modify i g'))))) := by
  cases kind with
  | hash =>
    rw [object, object]
    simp only [ne_eq, String.reduceEq, not_false_eq_true, Location.decode_put_of_ne,
      Fields.getD_put_of_ne, hk]
    refine bind_right _ fun place => ?_
    exact (hashObject_pairs hi h).bind_left fun loc given => by simp [Node.change]
  | _ => cases hs

theorem of_decode_node {q : Option Location → Node → Node}
    (h : Relocated reading q (Site.node.decode (.table xs)) (Site.node.decode (.table xs'))) :
    Relocated reading q (object xs) (object xs') := by
  rwa [Site.decode_node_table, Site.decode_node_table] at h

/-- One turn from a node. -/
theorem object_step {t : Turn} {s : Site} (hs : Site.node.target? fields t = some s)
    (hv : t.find? fields = some v) (hx : g v = .table xs) (hx' : g' v = .table xs')
    (ht : xs.getD "type" = xs'.getD "type") (hf : ∀ loc n, (f loc .node n).kind = n.kind)
    (h : Relocated reading (fun loc => f loc s) (s.decode (g v)) (s.decode (g' v))) :
    Relocated reading (fun loc => Node.change t (f loc)) (object (t.edit g fields))
      (object (t.edit g' fields)) := by
  obtain ⟨kind, hk, hs⟩ := Option.bind_eq_some_iff.mp hs
  obtain rfl := Kind.target?_eq_site hs
  cases hi : t.index? with
  | none =>
    have hv := Turn.get?_of_find? hi hv
    rw [Turn.edit_of_get? hi hv, Turn.edit_of_get? hi hv, hx, hx']
    rw [hx, hx'] at h
    cases t with
    | path => exact object_path hk hs ht hf (of_decode_node h)
    | value => exact object_value hk hs (of_decode_node h)
    | hash => exact object_hash hk hs h
    | program => exact object_program hk hs h
    | inverse => exact object_inverse hk hs h
    | _ => cases hi
  | some i =>
    obtain ⟨items, hl, hm⟩ := Turn.exists_list_of_find? hi hv
    rw [Turn.edit_of_list hi hl, Turn.edit_of_list hi hl]
    cases t with
    | body j => cases hi; exact object_body hk hs hm h
    | params j => cases hi; exact object_params hk hs hm h
    | attributes j => cases hi; exact object_attributes hk hs hm h
    | modifiers j => cases hi; exact object_modifiers hk hs hm h
    | children j => cases hi; exact object_children hk hs hm h
    | parts j => cases hi; exact object_parts hk hs hm h
    | pairs j => cases hi; exact object_pairs hk hs hm h
    | _ => cases hi

/-- One turn from an object of a site. -/
theorem step {t : Turn} {s s' : Site} (hs : s.target? fields t = some s')
    (hv : t.find? fields = some v) (hx : g v = .table xs) (hx' : g' v = .table xs')
    (ht : xs.getD "type" = xs'.getD "type") (hf : ∀ loc n, (f loc .node n).kind = n.kind)
    (h : Relocated reading (fun loc => f loc s') (s'.decode (g v)) (s'.decode (g' v))) :
    Relocated reading (fun loc => Site.change t (f loc) s) (s.decode (.table (t.edit g fields)))
      (s.decode (.table (t.edit g' fields))) := by
  cases s with
  | node =>
    rw [Site.decode_node_table, Site.decode_node_table]
    exact object_step hs hv hx hx' ht hf h
  | block =>
    cases t with
    | body i =>
      cases hs
      obtain ⟨items, hl, hi⟩ := Turn.exists_list_of_find? rfl hv
      rw [Turn.edit_of_list rfl hl, Turn.edit_of_list rfl hl]
      exact blockObject_body hi h
    | _ => cases hs
  | hash =>
    cases t with
    | pairs i =>
      cases hs
      obtain ⟨items, hl, hi⟩ := Turn.exists_list_of_find? rfl hv
      rw [Turn.edit_of_list rfl hl, Turn.edit_of_list rfl hl]
      exact hashObject_pairs hi h
    | _ => cases hs
  | pair =>
    cases t with
    | value =>
      cases hs
      have hv := Turn.get?_of_find? rfl hv
      rw [hx, hx'] at h
      rw [Turn.edit_of_get? rfl hv, Turn.edit_of_get? rfl hv, hx, hx']
      exact pair_value (of_decode_node h)
    | _ => cases hs

/-- A location at a place of a document. -/
theorem putLoc (loc : Value) (place : List Turn) (s : Site) (v : Value)
    (h : v.hasPlace place s) :
    Relocated (Location.read loc) (fun l => Site.putLoc l place s)
      (s.decode (v.putLoc (some loc) place)) (s.decode (v.putLoc none place)) := by
  induction place generalizing s v with
  | nil =>
    cases v with
    | table fields => exact root fields loc s
    | _ => cases h
  | cons t rest ih =>
    cases v with
    | table fields =>
      obtain ⟨s', w, hs, hw, hp⟩ := Value.hasPlace_cons.mp h
      obtain ⟨xs, xs', hx, hx', ht⟩ := Value.exists_table_putLoc hp (some loc) none
      exact step hs hw hx hx' ht (fun l n => Site.kind_putLoc l rest n) (ih s' w hp)
    | _ => cases h

end Relocated

end TemplateLint
