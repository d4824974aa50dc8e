import TemplateLint.Proofs.Places

/-!
Decoding two documents that differ in the location of one place, of which the second has none: what
the results have to do with each other, and how this passes through the steps of a decoder.
-/

namespace TemplateLint

open Decode

variable {α β : Type} {reading : Except DecodeError (Option Location)}
  {p : Option Location → α → α} {q : Option Location → β → β} {x x' : Except DecodeError α}

/-- What two decoders give that differ in the location of one place: the first reads it, for the
second it is missing. -/
def Relocated (reading : Except DecodeError (Option Location)) (p : Option Location → α → α)
    (x x' : Except DecodeError α) : Prop :=
  match reading with
  | .ok loc => x = p loc <$> x'
  | .error e => x = .error e ∨ ∃ e', x = .error e' ∧ x' = .error e'

namespace Relocated

/-- The place is in what is decoded first. -/
theorem bind_left {f : α → Except DecodeError β} (h : Relocated reading p x x')
    (hf : ∀ loc a, f (p loc a) = q loc <$> f a) : Relocated reading q (x >>= f) (x' >>= f) := by
  cases reading with
  | ok loc =>
    have hx : x = p loc <$> x' := h
    cases x' with
    | error e =>
      rw [hx]
      rfl
    | ok a =>
      rw [hx]
      exact hf loc a
  | error e =>
    rcases h with rfl | ⟨e', rfl, rfl⟩
    · exact .inl rfl
    · exact .inr ⟨e', rfl, rfl⟩

/-- A fault before the place is reached. -/
theorem of_error (e : DecodeError) : Relocated reading p (.error e) (.error e) := by
  cases reading with
  | ok loc => rfl
  | error e' => exact .inr ⟨e, rfl, rfl⟩

/-- The place is in what is decoded later. -/
theorem bind_right (x : Except DecodeError α) {f g : α → Except DecodeError β}
    (h : ∀ a, Relocated reading q (f a) (g a)) : Relocated reading q (x >>= f) (x >>= g) := by
  cases x with
  | ok a => exact h a
  | error e => exact of_error e

/-- The location itself is read. -/
theorem of_reading {f : Option Location → Except DecodeError α}
    (h : ∀ loc, f loc = p loc <$> f none) : Relocated reading p (reading >>= f) (f none) := by
  cases reading with
  | ok loc => exact h loc
  | error e => exact .inl rfl

theorem map {f : α → β} (h : Relocated reading p x x') (hf : ∀ loc a, f (p loc a) = q loc (f a)) :
    Relocated reading q (f <$> x) (f <$> x') := by
  rw [map_eq_pure_bind, map_eq_pure_bind]
  exact h.bind_left fun loc a => congrArg Except.ok (hf loc a)

/-- The place is in one of the values of a list. -/
theorem mapM {f : Value → Except DecodeError α} {g g' : Value → Value} {items : List Value}
    {i : Nat} {v : Value} (hi : items[i]? = some v)
    (h : Relocated reading p (f (g v)) (f (g' v))) :
    Relocated reading (fun loc as => as.modify i (p loc))
      ((items.modify i g).mapM f) ((items.modify i g').mapM f) := by
  induction items generalizing i with
  | nil => cases hi
  | cons w rest ih =>
    cases i with
    | zero =>
      cases hi
      rw [List.modify_zero_cons, List.modify_zero_cons, List.mapM_cons, List.mapM_cons]
      exact h.bind_left fun loc a => by simp
    | succ i =>
      rw [List.modify_succ_cons, List.modify_succ_cons, List.mapM_cons, List.mapM_cons]
      exact bind_right _ fun a => (ih hi).bind_left fun loc as => by simp

end Relocated

/-- What the reader makes of a value where it expects an object of a site. -/
def Site.decode : (s : Site) → Value → Except DecodeError s.Tree
  | node, v => Decode.node v
  | block, .table fields => blockObject fields
  | block, v => .error (.notBlock v)
  | hash, .table fields => hashObject fields
  | hash, v => .error (.notHash v)
  | pair, v => Decode.pair v

theorem Site.decode_node_table (fields : Fields) : node.decode (.table fields) = object fields := by
  rw [decode, Decode.node]

/-- The reading of a location. -/
def Location.read (loc : Value) : Except DecodeError (Option Location) :=
  Location.decode [("loc", loc)]

variable {fields : Fields} {loc : Value}

theorem Location.decode_put (fields : Fields) (loc : Value) :
    Location.decode (fields.put "loc" (some loc)) = Location.read loc := by
  rw [read, decode, decode, Named.get?_put_self]
  rfl

theorem Location.decode_remove (fields : Fields) :
    Location.decode (fields.put "loc" none) = .ok none := by
  rw [decode, Named.get?_put_self]
  rfl

namespace Relocated

variable {g g' : Value → Value} {v : Value} {i : Nat} {items : List Value} {xs xs' : Fields}
  {f : Option Location → Change}

theorem nodes_put {key : String} (hi : items[i]? = some v)
    (h : Relocated reading (fun loc => f loc .node) (Node.decode (g v)) (Node.decode (g' v))) :
    Relocated reading (fun loc vs => vs.modify i (f loc .node))
      (nodes (fields.put key (some (.list (items.modify i g)))) key)
      (nodes (fields.put key (some (.list (items.modify i g')))) key) := by
  rw [nodes_eq, nodes_eq, Named.get?_put_self, Named.get?_put_self]
  exact mapM hi h

theorem pairs_put (hi : items[i]? = some v)
    (h : Relocated reading (fun loc => f loc .pair) (pair (g v)) (pair (g' v))) :
    Relocated reading (fun loc ps => ps.modify i (f loc .pair))
      (pairs (fields.put "pairs" (some (.list (items.modify i g)))))
      (pairs (fields.put "pairs" (some (.list (items.modify i g'))))) := by
  rw [pairs_eq, pairs_eq, Named.get?_put_self, Named.get?_put_self]
  exact mapM hi h

theorem required_put {key : String}
    (h : Relocated reading (fun loc => f loc .node) (object xs) (object xs')) :
    Relocated reading (fun loc => f loc .node) (required (fields.put key (some (.table xs))) key)
      (required (fields.put key (some (.table xs'))) key) := by
  rw [required_eq, required_eq, Named.get?_put_self, Named.get?_put_self]
  simpa only [node] using h

theorem asPath_change (hf : ∀ loc n, (f loc .node n).kind = n.kind) (w : Value)
    (loc : Option Location) (n : Node) :
    asPath w (f loc .node n) = PathExpression.change (f loc) <$> asPath w n := by
  have hk := hf loc n
  cases n with
  | path p =>
    cases hn : f loc .node (.path p) with
    | path q =>
      have hc : p.change (f loc) = q := by rw [PathExpression.change, hn]
      rw [← hc]
      rfl
    | _ =>
      rw [hn] at hk
      cases hk
  | _ =>
    generalize f loc .node _ = n' at hk
    cases n' with
    | path q => cases hk
    | _ => rfl

theorem path_put (ht : xs.getD "type" = xs'.getD "type")
    (hf : ∀ loc n, (f loc .node n).kind = n.kind)
    (h : Relocated reading (fun loc => f loc .node) (object xs) (object xs')) :
    Relocated reading (fun loc => PathExpression.change (f loc))
      (path (fields.put "path" (some (.table xs))))
      (path (fields.put "path" (some (.table xs')))) := by
  have hp : asPath (.table xs) = asPath (.table xs') := by
    funext n
    cases n <;> simp [asPath, Value.field, ht]
  rw [path_eq, path_eq, Named.get?_put_self, Named.get?_put_self]
  simp only [node, hp]
  exact h.bind_left (asPath_change hf _)

theorem hash_put (h : Relocated reading (fun loc => f loc .hash) (hashObject xs) (hashObject xs')) :
    Relocated reading (fun loc => f loc .hash) (Decode.hash (fields.put "hash" (some (.table xs))))
      (Decode.hash (fields.put "hash" (some (.table xs')))) := by
  rw [hash_eq, hash_eq, Named.get?_put_self, Named.get?_put_self]
  exact h

theorem program_put
    (h : Relocated reading (fun loc => f loc .block) (blockObject xs) (blockObject xs')) :
    Relocated reading (fun loc => f loc .block)
      (program (fields.put "program" (some (.table xs))))
      (program (fields.put "program" (some (.table xs')))) := by
  rw [program_eq, program_eq, Named.get?_put_self, Named.get?_put_self]
  exact h

theorem inverse_put
    (h : Relocated reading (fun loc => f loc .block) (blockObject xs) (blockObject xs')) :
    Relocated reading (fun loc => Option.map (f loc .block))
      (inverse (fields.put "inverse" (some (.table xs))))
      (inverse (fields.put "inverse" (some (.table xs')))) := by
  rw [inverse_eq, inverse_eq, Named.get?_put_self, Named.get?_put_self]
  exact h.map fun loc a => rfl

end Relocated

end TemplateLint
