import Mathlib.Data.List.Nodup
import TemplateLint.Proofs.Steps

/-!
A walk with an enter and an exit for every kind of node. Main statement: it enters and leaves every
node that the tree holds in any field once, and between the two it goes through what that node
holds.
-/

namespace TemplateLint

/-- The fields in which nodes hold nodes, in the order in which a walk goes through them. -/
inductive NodeField where
  | path
  | params
  | hash
  | program
  | inverse
  | attributes
  | modifiers
  | children
  | body
  | pairs
  | value
  | parts
  deriving DecidableEq, Repr

def NodeField.all : List NodeField :=
  [path, params, hash, program, inverse, attributes, modifiers, children, body, pairs, value, parts]

/-- An index in a field of a node. -/
structure Spot where
  field : NodeField
  index : Nat
  deriving DecidableEq, Repr

/-- A node is entered or left, as a callback sees it. -/
structure Passage where
  phase : Phase
  node : Node

/-- A passage, and the spots on the way from the root of the walk to the node. -/
structure PlacedPassage where
  place : List Spot
  phase : Phase
  node : Node

def Step.passage (s : Step) : Passage := ⟨s.phase, s.node⟩

namespace Passage

variable {m : Type → Type} [Monad m]

/-- What a visitor does at a passage. -/
def act (visitor : Visitor m) (p : Passage) : m Unit :=
  match p.phase with
  | .enter => (visitor p.node.kind).onEnter p.node
  | .exit => (visitor p.node.kind).onExit p.node

/-- A visitor with a callback for either passage of the nodes of every kind. -/
def visitor (callback : Phase → Kind → Node → m Unit) : Visitor m :=
  fun kind => { enter := some (callback .enter kind), exit := some (callback .exit kind) }

/-- Writes every passage down. -/
def recorder : Visitor (StateM (List Passage)) :=
  visitor fun phase _ node => modify (· ++ [⟨phase, node⟩])

/-- Every enter has its exit, and what is between them is bracketed too. -/
inductive Bracketed : List Passage → Prop
  | nil : Bracketed []
  | around (node : Node) {inside after : List Passage} (hi : Bracketed inside)
      (ha : Bracketed after) :
      Bracketed (⟨.enter, node⟩ :: inside ++ ⟨.exit, node⟩ :: after)

theorem Bracketed.append {xs ys : List Passage} (hx : Bracketed xs) (hy : Bracketed ys) :
    Bracketed (xs ++ ys) := by
  induction hx with
  | nil => exact hy
  | around node hi _ _ ih =>
    rw [List.append_assoc, List.cons_append]
    exact .around node hi ih

theorem Bracketed.flatMap {trees : List Node} {f : Node → List Passage}
    (h : ∀ tree ∈ trees, Bracketed (f tree)) : Bracketed (trees.flatMap f) := by
  induction trees with
  | nil => exact .nil
  | cons tree rest ih =>
    rw [List.flatMap_cons]
    exact (h tree List.mem_cons_self).append (ih fun t ht => h t (List.mem_cons_of_mem tree ht))

end Passage

namespace PlacedPassage

def passage (p : PlacedPassage) : Passage := ⟨p.phase, p.node⟩

/-- Where the passage is, and which of the two it is. -/
def key (p : PlacedPassage) : List Spot × Phase := (p.place, p.phase)

/-- The passage as seen from a node that holds the root at a spot. -/
def below (s : Spot) (p : PlacedPassage) : PlacedPassage := { p with place := s :: p.place }

theorem map_passage_below (s : Spot) (ps : List PlacedPassage) :
    (ps.map (below s)).map passage = ps.map passage := by
  rw [List.map_map]
  rfl

end PlacedPassage

open Passage PlacedPassage

namespace Node

/-- The nodes that a node holds in a field. -/
def held : Node → NodeField → List Node
  | blockStatement p .., .path | subExpression p .., .path | elementModifier p .., .path => [path p]
  | mustacheStatement callee .., .path => [callee]
  | blockStatement _ params .., .params | mustacheStatement _ params .., .params => params
  | subExpression _ params .., .params | elementModifier _ params .., .params => params
  | blockStatement _ _ h .., .hash | mustacheStatement _ _ h .., .hash => [hash h]
  | subExpression _ _ h _, .hash | elementModifier _ _ h _, .hash => [hash h]
  | blockStatement _ _ _ program _ _, .program => [block program]
  | blockStatement _ _ _ _ inverse _, .inverse => inverse.toList.map block
  | element _ attributes _ _ _ _ _, .attributes => attributes
  | element _ _ modifiers _ _ _ _, .modifiers => modifiers
  | element _ _ _ children _ _ _, .children => children
  | template body _ _, .body => body
  | block b, .body => b.body
  | hash h, .pairs => h.pairs.map hashPair
  | hashPair p, .value => [p.value]
  | attr _ value _, .value => [value]
  | concat parts _, .parts => parts
  | _, _ => []

/-- What is left of a node without the nodes that it holds. -/
def bare : Node → Node
  | template _ names loc => template [] names loc
  | block b => block { b with body := [] }
  | blockStatement _ _ _ _ _ loc => blockStatement ⟨.null, none⟩ [] .empty .empty none loc
  | mustacheStatement _ _ _ trusting loc => mustacheStatement (.null none) [] .empty trusting loc
  | subExpression _ _ _ loc => subExpression ⟨.null, none⟩ [] .empty loc
  | elementModifier _ _ _ loc => elementModifier ⟨.null, none⟩ [] .empty loc
  | hash h => hash { h with pairs := [] }
  | hashPair p => hashPair { p with value := .null none }
  | element tag _ _ _ names selfClosing loc => element tag [] [] [] names selfClosing loc
  | attr name _ loc => attr name (.null none) loc
  | concat _ loc => concat [] loc
  | v => v

/-- The node that a tree holds at the end of a way. -/
def at? : List Spot → Node → Option Node
  | [], v => some v
  | s :: rest, v => (v.held s.field)[s.index]?.bind (at? rest)

variable {v w : Node} {s : Spot} {child : Node}

/-- The fields leave out no node: a node is given by what it holds in them and by the rest of it. -/
theorem eq_of_held_eq (hb : v.bare = w.bare) (hh : ∀ f, v.held f = w.held f) : v = w := by
  have hall : ∀ f ∈ NodeField.all, v.held f = w.held f := fun f _ => hh f
  simp only [NodeField.all, List.forall_mem_cons] at hall
  obtain ⟨hpath, hparams, hhash, hprogram, hinverse, hattributes, hmodifiers, hchildren, hbody,
    hpairs, hvalue, hparts, -⟩ := hall
  clear hh
  cases v <;> cases w <;> simp only [bare, reduceCtorEq] at hb <;> simp_all [held]
  case block.block b c =>
    obtain ⟨⟩ := b
    obtain ⟨⟩ := c
    simp_all
  case hash.hash g h =>
    obtain ⟨pairs, loc⟩ := g
    obtain ⟨pairs', loc'⟩ := h
    have hp : pairs = pairs' := List.map_injective_iff.mpr (fun _ _ => hashPair.inj) hpairs
    simp_all
  case hashPair.hashPair p q =>
    obtain ⟨⟩ := p
    obtain ⟨⟩ := q
    simp_all
  case blockStatement.blockStatement inverse _ _ _ _ _ inverse' _ =>
    cases inverse <;> cases inverse' <;> simp_all

/-- A walk goes through the fields in their order. -/
theorem children_eq (v : Node) : v.children = NodeField.all.flatMap v.held := by
  cases v <;> simp [children, NodeField.all, held]

/-- The spots of a node, each with what the node holds there. -/
def spots (v : Node) : List (Spot × Node) :=
  NodeField.all.flatMap fun f => (v.held f).mapIdx fun i child => (⟨f, i⟩, child)

theorem map_snd_spots (v : Node) : v.spots.map Prod.snd = v.children := by
  rw [children_eq, spots, List.map_flatMap]
  congr 1
  funext f
  exact List.ext_getElem (by simp) fun i _ _ => by simp

theorem map_fst_spots (v : Node) : v.spots.map Prod.fst =
    NodeField.all.flatMap fun f => (List.range (v.held f).length).map (Spot.mk f) := by
  rw [spots, List.map_flatMap]
  congr 1
  funext f
  exact List.ext_getElem (by simp) fun i _ _ => by simp

theorem mem_spots_iff : (s, child) ∈ v.spots ↔ (v.held s.field)[s.index]? = some child := by
  obtain ⟨field, index⟩ := s
  simp only [spots, List.mem_flatMap, List.mem_mapIdx, Prod.mk.injEq, Spot.mk.injEq]
  constructor
  · rintro ⟨f, -, i, hi, ⟨rfl, rfl⟩, rfl⟩
    exact List.getElem?_eq_getElem hi
  · intro h
    obtain ⟨hi, rfl⟩ := List.getElem?_eq_some_iff.mp h
    exact ⟨field, by cases field <;> decide, index, hi, ⟨rfl, rfl⟩, rfl⟩

theorem nodup_spots (v : Node) : (v.spots.map Prod.fst).Nodup := by
  rw [map_fst_spots, List.nodup_flatMap]
  constructor
  · intro f _
    exact List.nodup_range.map fun i j h => (Spot.mk.inj h).2
  · have hall : NodeField.all.Nodup := by decide
    refine hall.imp fun {f g} hfg s hf hg => ?_
    obtain ⟨i, -, rfl⟩ := List.mem_map.mp hf
    obtain ⟨j, -, hs⟩ := List.mem_map.mp hg
    exact hfg (Spot.mk.inj hs).1.symm

theorem mem_children_of_mem_spots {p : Spot × Node} (h : p ∈ v.spots) : p.2 ∈ v.children := by
  rw [← map_snd_spots]
  exact List.mem_map_of_mem h

/-- The passages of a walk of the tree, each at its place. -/
def placed (v : Node) : List PlacedPassage :=
  ⟨[], .enter, v⟩ :: v.spots.attach.flatMap (fun ⟨s, _⟩ => s.2.placed.map (below s.1)) ++
    [⟨[], .exit, v⟩]
termination_by sizeOf v
decreasing_by exact sizeOf_lt_of_mem_children (mem_children_of_mem_spots ‹_›)

theorem placed_eq (v : Node) :
    v.placed = ⟨[], .enter, v⟩ :: v.spots.flatMap (fun s => s.2.placed.map (below s.1)) ++
      [⟨[], .exit, v⟩] := by
  rw [placed, List.flatMap_subtype (g := fun s => s.2.placed.map (below s.1)) (fun _ _ => rfl),
    List.unattach_attach]

/-- What a walk of the tree with an enter and an exit for every kind of node comes by. -/
def passages (v : Node) : List Passage := ((v.traverse recorder).run []).2

theorem run_forM_recorder (steps : List Step) (ps : List Passage) :
    (steps.forM (Step.act recorder)).run ps = ((), ps ++ steps.map Step.passage) := by
  induction steps generalizing ps with
  | nil =>
    rw [List.map_nil, List.append_nil]
    rfl
  | cons s rest ih =>
    have hs : (s.act recorder).run ps = ((), ps ++ [s.passage]) := by
      obtain ⟨phase, node, above⟩ := s
      cases phase <;> rfl
    have hrest := ih (ps ++ [s.passage])
    rw [List.append_assoc, List.singleton_append, ← List.map_cons] at hrest
    rw [List.forM_eq_forM, List.forM_cons, StateT.run_bind, hs]
    exact hrest

theorem passages_eq_map_steps (above : List Node) (v : Node) :
    v.passages = (v.steps above).map Step.passage := by
  rw [passages, traverse_eq_forM_steps recorder above, run_forM_recorder, List.nil_append]

theorem passages_eq (v : Node) :
    v.passages = ⟨.enter, v⟩ :: v.children.flatMap passages ++ [⟨.exit, v⟩] := by
  have hc : (v.children.flatMap (steps [v])).map Step.passage = v.children.flatMap passages := by
    rw [List.map_flatMap]
    congr 1
    funext child
    exact (passages_eq_map_steps [v] child).symm
  rw [passages_eq_map_steps [], steps_eq, List.map_append, List.map_cons, hc]
  rfl

/-- Any visitor acts at these passages, one after the other. -/
theorem traverse_eq_forM_passages {m : Type → Type} [Monad m] [LawfulMonad m]
    (visitor : Visitor m) (v : Node) :
    v.traverse visitor = v.passages.forM (Passage.act visitor) := by
  rw [traverse_eq_forM_steps visitor [], passages_eq_map_steps [], List.forM_eq_forM,
    List.forM_eq_forM, List.forM_map]
  rfl

theorem bracketed_passages (v : Node) : Bracketed v.passages := by
  induction v using childrenInduction with
  | step v ih =>
    rw [passages_eq]
    exact .around v (Bracketed.flatMap ih) .nil

theorem passages_eq_map_placed (v : Node) : v.passages = v.placed.map passage := by
  induction v using childrenInduction with
  | step v ih =>
    have hs : v.children.flatMap passages =
        (v.spots.flatMap fun s => s.2.placed.map (below s.1)).map passage := by
      rw [← map_snd_spots, List.flatMap_map, List.map_flatMap]
      refine List.flatMap_congr fun s hs => ?_
      rw [map_passage_below, ih s.2 (mem_children_of_mem_spots hs)]
    rw [passages_eq, placed_eq, hs, List.map_append, List.map_cons]
    rfl

/-- The passages of a node that the tree holds: its own two, and between them those of what it
holds. -/
theorem exists_placed_of_at? {place : List Spot} {v w : Node} (h : v.at? place = some w) :
    ∃ before inside after, v.placed =
      before ++ ⟨place, .enter, w⟩ :: inside ++ ⟨place, .exit, w⟩ :: after ∧
      inside.map passage = w.children.flatMap passages := by
  induction place generalizing v with
  | nil =>
    cases h
    refine ⟨[], _, [], placed_eq w, ?_⟩
    have hp := passages_eq w
    rw [passages_eq_map_placed, placed_eq, List.map_append, List.map_cons] at hp
    exact List.append_cancel_right (List.cons.inj hp).2
  | cons s rest ih =>
    obtain ⟨child, hc, hr⟩ := Option.bind_eq_some_iff.mp h
    obtain ⟨first, last, hs⟩ := List.append_of_mem (mem_spots_iff.mpr hc)
    obtain ⟨before, inside, after, hp, hi⟩ := ih hr
    refine ⟨⟨[], .enter, v⟩ :: first.flatMap (fun s => s.2.placed.map (below s.1)) ++
        before.map (below s), inside.map (below s), after.map (below s) ++
        last.flatMap (fun s => s.2.placed.map (below s.1)) ++ [⟨[], .exit, v⟩], ?_, ?_⟩
    · rw [placed_eq, hs, List.flatMap_append, List.flatMap_cons, hp]
      simp [below]
    · rw [map_passage_below, hi]

theorem at?_of_mem_placed {p : PlacedPassage} (h : p ∈ v.placed) : v.at? p.place = some p.node := by
  induction v using childrenInduction generalizing p with
  | step v ih =>
    rw [placed_eq, List.cons_append, List.mem_cons, List.mem_append, List.mem_singleton] at h
    rcases h with rfl | h | rfl
    · rfl
    · obtain ⟨⟨s, child⟩, hs, h⟩ := List.mem_flatMap.mp h
      obtain ⟨q, hq, rfl⟩ := List.mem_map.mp h
      have hc := ih child (mem_children_of_mem_spots hs) hq
      rw [below, at?, mem_spots_iff.mp hs]
      exact hc
    · rfl

theorem keys_eq (v : Node) : v.placed.map key = ([], .enter) ::
    v.spots.flatMap (fun s => (s.2.placed.map key).map fun k => (s.1 :: k.1, k.2)) ++
      [([], .exit)] := by
  rw [placed_eq, List.map_append, List.map_cons, List.map_flatMap]
  simp only [List.map_map]
  rfl

theorem nodup_keys (v : Node) : (v.placed.map key).Nodup := by
  induction v using childrenInduction with
  | step v ih =>
    have inner : ∀ k ∈ v.spots.flatMap fun s =>
        (s.2.placed.map key).map fun k => (s.1 :: k.1, k.2), k.1 ≠ [] := by
      intro k hk
      obtain ⟨s, -, hk⟩ := List.mem_flatMap.mp hk
      obtain ⟨k, -, rfl⟩ := List.mem_map.mp hk
      exact List.cons_ne_nil _ _
    have hi : (v.spots.flatMap fun s =>
        (s.2.placed.map key).map fun k => (s.1 :: k.1, k.2)).Nodup := by
      refine List.nodup_flatMap.mpr ⟨fun s hs => ?_, ?_⟩
      · refine (ih s.2 (mem_children_of_mem_spots hs)).map fun k k' h => ?_
        simp only [Prod.mk.injEq, List.cons.injEq, true_and] at h
        exact Prod.ext h.1 h.2
      · refine (List.pairwise_map.mp (nodup_spots v)).imp fun {s t} hst k hs ht => ?_
        obtain ⟨a, -, rfl⟩ := List.mem_map.mp hs
        obtain ⟨b, -, hb⟩ := List.mem_map.mp ht
        exact hst (List.cons.inj (congrArg Prod.fst hb)).1.symm
    rw [keys_eq, List.cons_append, List.nodup_cons, List.nodup_append]
    refine ⟨?_, hi, List.nodup_singleton _, ?_⟩
    · simp only [List.mem_append, List.mem_singleton, not_or]
      exact ⟨fun h => inner _ h rfl, by simp⟩
    · rintro k hk k' hk' rfl
      cases List.mem_singleton.mp hk'
      exact inner _ hk rfl

theorem mem_keys_iff {place : List Spot} {phase : Phase} :
    (place, phase) ∈ v.placed.map key ↔ (v.at? place).isSome := by
  constructor
  · intro h
    obtain ⟨p, hp, hk⟩ := List.mem_map.mp h
    have ha := at?_of_mem_placed hp
    rw [← (Prod.mk.inj hk).1, ha]
    rfl
  · intro h
    obtain ⟨w, hw⟩ := Option.isSome_iff_exists.mp h
    obtain ⟨before, inside, after, hp, -⟩ := exists_placed_of_at? hw
    have hm : ⟨place, phase, w⟩ ∈ v.placed := by
      rw [hp]
      cases phase <;> simp
    exact List.mem_map_of_mem hm

/-- A node at a place is entered once and left once; where the tree holds no node nothing is. -/
theorem count_keys (place : List Spot) (phase : Phase) (v : Node) :
    (v.placed.map key).count (place, phase) = if (v.at? place).isSome then 1 else 0 := by
  simp only [(nodup_keys v).count, mem_keys_iff]

/-- A walk with an enter and an exit for every kind of node calls them at the passages of the tree
and nowhere else. Every node that the tree holds at some place, however deep in whichever field, is
entered once and left once. The passages are bracketed, and those between the two of a node are all
passages of the nodes that it holds, field by field. No field is left out. -/
theorem passages_of_held (tree : Node) :
    (∀ {m : Type → Type} [Monad m] [LawfulMonad m] (callback : Phase → Kind → Node → m Unit),
      tree.traverse (visitor callback) =
        tree.passages.forM fun p => callback p.phase p.node.kind p.node) ∧
    tree.passages = tree.placed.map passage ∧
    (∀ p ∈ tree.placed, tree.at? p.place = some p.node) ∧
    (∀ place phase, (tree.placed.map key).count (place, phase) =
      if (tree.at? place).isSome then 1 else 0) ∧
    Bracketed tree.passages ∧
    (∀ place v, tree.at? place = some v → ∃ before inside after,
      tree.placed = before ++ ⟨place, .enter, v⟩ :: inside ++ ⟨place, .exit, v⟩ :: after ∧
      inside.map passage = (NodeField.all.flatMap v.held).flatMap passages) ∧
    ∀ v w : Node, v.bare = w.bare → (∀ f, v.held f = w.held f) → v = w := by
  refine ⟨?_, passages_eq_map_placed tree, fun p => at?_of_mem_placed,
    fun place phase => count_keys place phase tree, bracketed_passages tree, ?_,
    fun v w => eq_of_held_eq⟩
  · intro m _ _ callback
    rw [traverse_eq_forM_passages]
    congr 1
    funext p
    obtain ⟨phase, node⟩ := p
    cases phase <;> rfl
  · intro place v h
    rw [← children_eq]
    exact exists_placed_of_at? h

def sizeText : Node := .text (.text "size-") none

/-- An attribute whose value is written in two parts. -/
def sizeConcat : Node := .concat [sizeText, .text (.text "1") none] none

def sizeTemplate : Node :=
  .template [.element (.text "p") [.attr (.text "class") sizeConcat none] [] [] [] false none] [] none

def sizePlace : List Spot := [⟨.body, 0⟩, ⟨.attributes, 0⟩, ⟨.value, 0⟩]

theorem passages_of_held_sizeTemplate :
    sizeTemplate.at? sizePlace = some sizeConcat ∧
    (sizeTemplate.placed.map key).count (sizePlace, .exit) = 1 ∧
    (sizeTemplate.placed.map key).count (sizePlace ++ [⟨.parts, 2⟩], .enter) = 0 ∧
    ∃ before inside after, sizeTemplate.placed =
      before ++ ⟨sizePlace, .enter, sizeConcat⟩ :: inside ++ ⟨sizePlace, .exit, sizeConcat⟩ :: after ∧
      inside.map (fun p => (p.phase, p.node.kind)) =
        [(.enter, .text), (.exit, .text), (.enter, .text), (.exit, .text)] := by
  have hplace : sizeTemplate.at? sizePlace = some sizeConcat := rfl
  obtain ⟨-, -, -, hcount, -, hbetween, -⟩ := passages_of_held sizeTemplate
  refine ⟨hplace, hcount sizePlace .exit, hcount _ .enter, ?_⟩
  obtain ⟨before, inside, after, hp, hi⟩ := hbetween sizePlace sizeConcat hplace
  refine ⟨before, inside, after, hp, ?_⟩
  have hk := congrArg (List.map fun p : Passage => (p.phase, p.node.kind)) hi
  rw [List.map_map] at hk
  refine hk.trans ?_
  simp [NodeField.all, held, sizeConcat, sizeText, passages_eq, children, kind]

end Node

end TemplateLint
