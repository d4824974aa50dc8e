import TemplateLint.Proofs.LexicalScope
import TemplateLint.Proofs.ScopeDiscipline

/-!
A walk that faults. Main statement: it stops at the first invocation that gives a collection in
place of a name, and leaves what was found before, with the frames around that invocation.
-/

namespace TemplateLint

open CheckFault Reference Surrounding

variable {items : List Value} {b : Blacklist} {base scope : Scope} {source : String}

/-- A block statement, mustache or sub-expression that gives the value, a collection, to the helper
for components as a text literal. -/
structure Node.GivesCollection (v : Node) (value : Value) : Prop where
  checked : v.isChecked
  component : v.invokedName? = some "component"
  collection : value.isCollection
  first : ∃ loc rest, v.params = .string value loc :: rest

namespace Node

variable {v : Node} {value : Value}

theorem givesCollection_iff : v.GivesCollection value ↔ v.collectionTarget? = some value := by
  rw [collectionTarget?_eq_some, componentTarget?, componentHelper]
  constructor
  · rintro ⟨hc, hi, hv, loc, rest, hp⟩
    exact ⟨hc, by rw [if_pos hi, hp], hv⟩
  · rintro ⟨hc, ht, hv⟩
    split at ht
    · rename_i hi
      split at ht
      · rename_i first loc rest hp
        cases ht
        exact ⟨hc, hi, hv, loc, rest, hp⟩
      · cases ht
    · cases ht

theorem visitFault_eq_some_iff {e : CheckFault} :
    v.visitFault = some e ↔ ∃ value, v.GivesCollection value ∧ e = .nameNotAtomic value := by
  rw [visitFault_eq_map, Option.map_eq_some_iff]
  simp only [givesCollection_iff, eq_comm]

theorem visitFault_eq_none_iff : v.visitFault = none ↔ ∀ value, ¬ v.GivesCollection value := by
  rw [Option.eq_none_iff_forall_ne_some]
  constructor
  · intro h value hv
    exact h _ (visitFault_eq_some_iff.mpr ⟨value, hv, rfl⟩)
  · intro h e he
    obtain ⟨value, hv, -⟩ := visitFault_eq_some_iff.mp he
    exact h value hv

/-- The visits of a tree are its nodes in the order of a walk. -/
theorem map_node_visits (around : List Surrounding) (v : Node) :
    (v.visits around).map Visit.node = v.occurrences := by
  induction v using childrenInduction generalizing around with
  | step v ih =>
    rw [visits_eq, occurrences_eq, List.map_cons, List.map_flatMap, ← map_snd_turns,
      List.flatMap_map]
    congr 1
    apply List.flatMap_congr
    intro s hs
    exact ih s.2 (mem_children_of_mem_turns hs) _

end Node

def Step.isArrival (s : Step) : Bool := s.phase = .enter

/-- The step that enters the node of a visit. -/
def Visit.arrival (p : Visit) : Step := ⟨.enter, p.node, p.around.map Surrounding.parent⟩

/-- A walk enters the nodes of a tree in the order of its visits. -/
theorem Node.filter_isArrival_steps (around : List Surrounding) (v : Node) :
    (v.steps (around.map Surrounding.parent)).filter Step.isArrival =
      (v.visits around).map Visit.arrival := by
  induction v using childrenInduction generalizing around with
  | step v ih =>
    have hc : (v.children.flatMap (steps (v :: around.map Surrounding.parent))).filter
        Step.isArrival = (v.turns.flatMap fun s => s.2.visits (⟨v, s.1⟩ :: around)).map
          Visit.arrival := by
      rw [← map_snd_turns, List.flatMap_map, List.filter_flatMap, List.map_flatMap]
      apply List.flatMap_congr
      intro s hs
      exact ih s.2 (mem_children_of_mem_turns hs) (⟨v, s.1⟩ :: around)
    rw [steps_eq, visits_eq, List.map_cons, ← hc, List.filter_append]
    simp [Step.isArrival, Visit.arrival]

/-- The steps of a walk up to the one that enters the node of a visit. -/
theorem Node.exists_steps_of_visits {around : List Surrounding} {v : Node} {before : List Visit}
    {p : Visit} {after : List Visit} (hv : v.visits around = before ++ p :: after) :
    ∃ pre post, v.steps (around.map Surrounding.parent) = pre ++ p.arrival :: post ∧
      pre.filter Step.isArrival = before.map Visit.arrival := by
  have hf := filter_isArrival_steps around v
  rw [hv, List.map_append, List.map_cons, List.filter_eq_append_iff] at hf
  obtain ⟨pre, rest, hs, hb, hr⟩ := hf
  obtain ⟨exits, post, rfl, hx, -, -⟩ := List.filter_eq_cons_iff.mp hr
  refine ⟨pre ++ exits, post, by rw [hs, List.append_assoc], ?_⟩
  rw [List.filter_append, hb, List.filter_eq_nil_iff.mpr hx, List.append_nil]

/-- Whenever some steps enter a node, the scope holds the frames of the path above that node. -/
def Sees (base scope : Scope) (steps : List Step) : Prop :=
  ∀ before s after, steps = before ++ s :: after → s.phase = .enter →
    scopeAfterAll before scope = blockFrames s.above ++ base

theorem sees_steps (base : Scope) (above : List Node) (root : Node) :
    Sees base (blockFrames above ++ base) (root.steps above) :=
  (follows_steps base above root).2

theorem Sees.tail {s : Step} {rest : List Step} (h : Sees base scope (s :: rest)) :
    Sees base (s.scopeAfter scope) rest := by
  intro before t after ht he
  exact h (s :: before) t after (by rw [ht, List.cons_append]) he

theorem Sees.left {xs ys : List Step} (h : Sees base scope (xs ++ ys)) : Sees base scope xs := by
  intro before t after ht he
  exact h before t (after ++ ys) (by rw [ht, List.append_assoc, List.cons_append]) he

namespace Progress

theorem exists_step_of_fault {steps : List Step} {e : CheckFault}
    (h : (ofSteps b scope steps).fault = some e) :
    ∃ s ∈ steps, ∃ inner, s.fault inner = some e := by
  induction steps generalizing scope with
  | nil => cases h
  | cons s rest ih =>
    cases hf : s.fault scope with
    | some e' =>
      rw [ofSteps_cons_of_fault hf] at h
      exact ⟨s, List.mem_cons_self, scope, h⟩
    | none =>
      rw [ofSteps_cons_of_no_fault hf] at h
      obtain ⟨t, ht, inner, he⟩ := ih h
      exact ⟨t, List.mem_cons_of_mem s ht, inner, he⟩

/-- Nothing is done after the first step that faults, but that step is done. -/
theorem ofSteps_of_first_fault {before : List Step} {s : Step} {e : CheckFault}
    (after : List Step) (hb : (ofSteps b scope before).fault = none)
    (hs : s.fault (ofSteps b scope before).scope = some e) :
    ofSteps b scope (before ++ s :: after) =
      ⟨(ofSteps b scope before).events ++ s.events b (ofSteps b scope before).scope, some e,
        s.scopeAfter (ofSteps b scope before).scope⟩ := by
  rw [ofSteps_append, andThen_of_no_fault hb, ofSteps_cons_of_fault hs]
  simp [ofStep, hs]

/-- The steps of a walk before one whose node and all nodes entered before it give no collection. -/
theorem no_fault_before {root : Node} {above : List Node} {before after : List Step} {s : Step}
    (hs : root.steps above = before ++ s :: after)
    (hn : ∀ t ∈ before, t.isArrival → t.node.visitFault = none) :
    (ofSteps b scope before).fault = none := by
  rw [Option.eq_none_iff_forall_ne_some]
  intro e he
  have hw : (ofSteps b scope (root.steps above)).fault = some e := by
    rw [hs, ofSteps_append, andThen_of_fault he, he]
  rw [Node.fault_ofSteps_steps] at hw
  obtain ⟨v, -, hv⟩ := List.exists_of_findSome?_eq_some hw
  obtain ⟨value, -, rfl⟩ := Node.visitFault_eq_some_iff.mp hv
  obtain ⟨⟨phase, node, above'⟩, ht, inner, hf⟩ := exists_step_of_fault he
  cases phase with
  | enter =>
    rw [Node.fault_enter, hn _ ht rfl] at hf
    cases hf
  | exit => cases hk : node.kind <;> simp [Step.fault, hk] at hf

/-- What a run of steps finds, when each arrival is under the frames of the path above it. -/
theorem findings_ofSteps {steps : List Step} (hs : Sees base scope steps)
    (hf : (ofSteps b scope steps).fault = none) :
    (ofSteps b scope steps).events.filterMap Event.finding? =
      (steps.filter Step.isArrival).flatMap fun s =>
        (s.events b (blockFrames s.above ++ base)).filterMap Event.finding? := by
  induction steps generalizing scope with
  | nil => rfl
  | cons s rest ih =>
    have hn := fault_head_eq_none hf
    rw [ofSteps_cons_of_no_fault hn] at hf ⊢
    have hr := ih hs.tail hf
    obtain ⟨phase, node, above⟩ := s
    cases phase with
    | enter =>
      have hscope : scope = blockFrames above ++ base := hs [] _ rest rfl rfl
      rw [List.filterMap_append, hr, List.filter_cons_of_pos rfl, List.flatMap_cons, hscope]
    | exit =>
      have hx : (Step.events b ⟨.exit, node, above⟩ scope).filterMap Event.finding? = [] :=
        Node.exit_findings b scope node
      have hskip : ¬ Step.isArrival ⟨.exit, node, above⟩ := by simp [Step.isArrival]
      rw [List.filterMap_append, hr, hx, List.nil_append, List.filter_cons_of_neg hskip]

end Progress

theorem inner_blockFrames_nil (above : List Node) (v : Node) :
    v.inner (blockFrames above) = blockFrames (v :: above) := by
  have h := inner_blockFrames [] above v
  rwa [List.append_nil, List.append_nil] at h

/-- The frames of what is around a place hold the names of its environment. -/
theorem binds_blockFrames (around : List Surrounding) :
    Scope.Binds (blockFrames (around.map Surrounding.parent)) (framed around) := by
  induction around with
  | nil => exact Scope.binds_nil
  | cons s rest ih =>
    rw [List.map_cons, ← inner_blockFrames_nil]
    exact ih.inner s.parent

namespace Visit

variable {p : Visit}

theorem findings_arrival (h : Setting.compile Rule.name (.list items) = .ok (some b)) (p : Visit) :
    (p.arrival.events b (blockFrames (p.around.map Surrounding.parent))).filterMap Event.finding? =
      p.findings items := by
  rw [findings_eq]
  exact Node.enter_findings h (binds_blockFrames p.around) p.node

/-- An invocation that gives a collection is found by no name. -/
theorem findings_of_givesCollection {value : Value} (h : p.node.GivesCollection value) :
    p.findings items = p.wildcardFindings items := by
  have ht : target? p.node = none := by
    rw [Option.eq_none_iff_forall_ne_some]
    intro name hname
    obtain ⟨-, hc, hv⟩ := Node.collectionTarget?_eq_some.mp (Node.givesCollection_iff.mp h)
    rw [target?_eq_some_iff.mp hname] at hc
    cases hc
    cases hv
  simp [findings, namedFindings, Reference.namedFindings, ht]

end Visit

section

variable {tree : Node} {before after : List Visit} {p : Visit} {value : Value}
  {pre post : List Step}

/-- The steps of a walk from outside all blocks up to a visit, when the visits before give no
collection. -/
theorem Progress.reaches (h : Setting.compile Rule.name (.list items) = .ok (some b))
    (hs : tree.steps [] = pre ++ p.arrival :: post)
    (hb : pre.filter Step.isArrival = before.map Visit.arrival)
    (hn : ∀ q ∈ before, ∀ value, ¬ q.node.GivesCollection value) :
    (ofSteps b [] pre).fault = none ∧
      (ofSteps b [] pre).scope = blockFrames (p.around.map Surrounding.parent) ∧
      (ofSteps b [] pre).events.filterMap Event.finding? =
        before.flatMap (Visit.findings items) := by
  have sees : Sees [] [] (pre ++ p.arrival :: post) := hs ▸ sees_steps [] [] tree
  have hf : (ofSteps b [] pre).fault = none := by
    apply no_fault_before hs
    intro t ht ha
    have hm : t ∈ before.map Visit.arrival := hb ▸ List.mem_filter.mpr ⟨ht, ha⟩
    obtain ⟨q, hq, rfl⟩ := List.mem_map.mp hm
    exact Node.visitFault_eq_none_iff.mpr (hn q hq)
  refine ⟨hf, ?_, ?_⟩
  · rw [scope_ofSteps hf]
    exact (sees pre p.arrival post rfl rfl).trans (List.append_nil _)
  · rw [findings_ofSteps sees.left hf, hb, List.flatMap_map]
    simp only [List.append_nil]
    exact List.flatMap_congr fun q _ => Visit.findings_arrival h q

theorem Rule.walk_eq (b : Blacklist) (source : String) (tree : Node) :
    Rule.walk ⟨some b, source⟩ tree = (outcome (Progress.ofSteps b [] (tree.steps [])).fault,
      Walk.advance {} (Progress.ofSteps b [] (tree.steps [])).scope
        (Progress.ofSteps b [] (tree.steps [])).events) := by
  have hw : Rule.walk ⟨some b, source⟩ tree = exec (tree.traverse b.visitor) {} := rfl
  rw [hw, Node.traverse_eq_forM_steps b.visitor [] tree]
  exact Progress.exec_forM_act b _ _

/-- The walk of a tree up to its first invocation that gives a collection. -/
theorem Rule.walk_of_first_collection
    (h : Setting.compile Rule.name (.list items) = .ok (some b)) (source : String)
    (hv : tree.visits [] = before ++ p :: after)
    (hn : ∀ q ∈ before, ∀ value, ¬ q.node.GivesCollection value)
    (hp : p.node.GivesCollection value) :
    ∃ w, Rule.walk ⟨some b, source⟩ tree = (.error (.nameNotAtomic value), w) ∧
      w.findings = before.flatMap (Visit.findings items) ++ p.wildcardFindings items ∧
      w.scope = blockFrames (p.node :: p.around.map Surrounding.parent) := by
  obtain ⟨pre, post, hs, hb⟩ := Node.exists_steps_of_visits hv
  rw [List.map_nil] at hs
  obtain ⟨hf, hscope, hfound⟩ := Progress.reaches h hs hb hn
  have stops : p.arrival.fault (Progress.ofSteps b [] pre).scope = some (.nameNotAtomic value) :=
    (Node.fault_enter p.node _ _).trans (Node.visitFault_eq_some_iff.mpr ⟨value, hp, rfl⟩)
  have leaves : p.arrival.scopeAfter (blockFrames (p.around.map Surrounding.parent)) =
      blockFrames (p.node :: p.around.map Surrounding.parent) :=
    (Node.scopeAfter_enter p.node _ _).trans (inner_blockFrames_nil _ _)
  have run := Progress.ofSteps_of_first_fault post hf stops
  rw [← hs, hscope, leaves] at run
  rw [walk_eq, run]
  refine ⟨_, rfl, ?_, rfl⟩
  simp [Walk.findings, hfound, Visit.findings_arrival h, Visit.findings_of_givesCollection hp]

theorem Node.exists_firstFault_iff :
    (∃ e, tree.firstFault = some e) ↔
      ∃ p ∈ tree.visits [], ∃ value, p.node.GivesCollection value := by
  have hv : ∀ v, v ∈ tree.occurrences ↔ ∃ p ∈ tree.visits [], p.node = v := by
    intro v
    rw [← map_node_visits [], List.mem_map]
  constructor
  · rintro ⟨e, he⟩
    obtain ⟨v, hm, hf⟩ := List.exists_of_findSome?_eq_some he
    obtain ⟨p, hp, rfl⟩ := (hv v).mp hm
    obtain ⟨value, hg, -⟩ := visitFault_eq_some_iff.mp hf
    exact ⟨p, hp, value, hg⟩
  · rintro ⟨p, hp, value, hg⟩
    rw [← Option.ne_none_iff_exists', Ne, firstFault_eq_none]
    intro hn
    exact visitFault_eq_none_iff.mp (hn p.node ((hv p.node).mpr ⟨p, hp, rfl⟩)) value hg

end

/-- A tree is walked to its end unless some invocation gives a collection. The first one that does
ends the walk: reported are what the visits before it found, each under the frames around it, and
the wildcard at that invocation. The frames that are left are those of the block statements around
it, and its own when it is one. -/
theorem step_stops_at_first_collection {document : Value} {tree : Node}
    (h : Setting.compile Rule.name (.list items) = .ok (some b))
    (hd : Node.decode document = .ok tree) (source : String) (history : Rule.History) :
    ((∃ e, (Rule.step ⟨some b, source⟩ history document).1 = .error e) ↔
      ∃ p ∈ tree.visits [], ∃ value, p.node.GivesCollection value) ∧
    (∀ e, (Rule.step ⟨some b, source⟩ history document).1 = .error e →
      ∃ value, e = .check (.nameNotAtomic value)) ∧
    ∀ before p after value, tree.visits [] = before ++ p :: after →
      (∀ q ∈ before, ∀ value, ¬ q.node.GivesCollection value) → p.node.GivesCollection value →
      Rule.step ⟨some b, source⟩ history document =
        (.error (.check (.nameNotAtomic value)),
          ⟨some (blockFrames (p.node :: p.around.map Surrounding.parent)),
            history.results ++ (before.flatMap (Visit.findings items) ++
              p.wildcardFindings items).map (Finding.violation source)⟩) := by
  have hs : (Rule.step ⟨some b, source⟩ history document).1 =
      (outcome tree.firstFault).mapError .check := by
    rw [Rule.step_of_decode hd, Rule.walk_eq, Node.fault_ofSteps_steps]
  refine ⟨?_, ?_, ?_⟩
  · rw [hs, ← Node.exists_firstFault_iff]
    cases tree.firstFault <;> simp [outcome, Except.mapError]
  · intro e he
    rw [hs] at he
    cases hf : tree.firstFault with
    | none =>
      rw [hf] at he
      cases he
    | some fault =>
      obtain ⟨v, -, hv⟩ := List.exists_of_findSome?_eq_some hf
      obtain ⟨value, -, rfl⟩ := Node.visitFault_eq_some_iff.mp hv
      rw [hf] at he
      cases he
      exact ⟨value, rfl⟩
  · intro before p after value hv hn hp
    obtain ⟨w, hw, hfound, hscope⟩ := Rule.walk_of_first_collection h source hv hn hp
    rw [Rule.step_of_decode hd, hw, ← hscope, ← hfound]
    rfl

def listMustache : Node := literalMustache (.list [])

def listBlock : Block := ⟨[listMustache], ["foo"], none⟩

/-- A block that binds a name around an invocation that gives a list. -/
def listEach : Node := .blockStatement ⟨.text "each", none⟩ [] .empty listBlock none none

/-- Such a block between two invocations of a component. -/
def interruptedTemplate : Node := .template [fooMustache, listEach, fooMustache] [] none

def invocationDocument (value : Value) : Value :=
  .table [("type", .text "MustacheStatement"),
    ("path", .table [("type", .text "PathExpression"), ("original", .text "component")]),
    ("params", .list [.table [("type", .text "StringLiteral"), ("value", value)]])]

def interruptedDocument : Value :=
  .table [("type", .text "Template"), ("body", .list [invocationDocument (.text "foo"),
    .table [("type", .text "BlockStatement"),
      ("path", .table [("type", .text "PathExpression"), ("original", .text "each")]),
      ("program", .table [("blockParams", .list [.text "foo"]),
        ("body", .list [invocationDocument (.list [])])])],
    invocationDocument (.text "foo")])]

theorem decode_interruptedDocument : Node.decode interruptedDocument = .ok interruptedTemplate := by
  have names : (Value.list [.text "foo"]).texts? = some ["foo"] := rfl
  simp [names, Node.decode, interruptedDocument, invocationDocument, interruptedTemplate, listEach,
    listBlock, listMustache, fooMustache, literalMustache, Decode.node, Decode.object,
    Decode.nodes, Decode.all, Decode.required, Decode.require, Decode.path, Decode.hash,
    Decode.program, Decode.inverse, Decode.blockObject, Decode.blockParams, Decode.trusting,
    Location.decode, Kind.ofValue?, Kind.ofName?, Kind.all, Kind.name, Fields.getD, Named.get?,
    List.lookup_cons, List.lookup_nil, Value.truthy, bind, Except.bind, pure, Except.pure]

/-- The visits of such an invocation below the given nodes. -/
def literalVisits (value : Value) (around : List Surrounding) : List Visit :=
  [⟨literalMustache value, around⟩,
    ⟨.path ⟨.text "component", none⟩, ⟨literalMustache value, .path⟩ :: around⟩,
    ⟨.string value none, ⟨literalMustache value, .params 0⟩ :: around⟩,
    ⟨.hash .empty, ⟨literalMustache value, .hash⟩ :: around⟩]

def aroundList : List Surrounding :=
  [⟨.block listBlock, .body 0⟩, ⟨listEach, .program⟩, ⟨interruptedTemplate, .body 1⟩]

def visitsBeforeList : List Visit :=
  ⟨interruptedTemplate, []⟩ :: literalVisits (.text "foo") [⟨interruptedTemplate, .body 0⟩] ++
    [⟨listEach, [⟨interruptedTemplate, .body 1⟩]⟩,
      ⟨.path ⟨.text "each", none⟩, [⟨listEach, .path⟩, ⟨interruptedTemplate, .body 1⟩]⟩,
      ⟨.hash .empty, [⟨listEach, .hash⟩, ⟨interruptedTemplate, .body 1⟩]⟩,
      ⟨.block listBlock, [⟨listEach, .program⟩, ⟨interruptedTemplate, .body 1⟩]⟩]

theorem visits_literalMustache (value : Value) (around : List Surrounding) :
    (literalMustache value).visits around = literalVisits value around := by
  have string (around) : (Node.string value none).visits around = _ := Node.visits_of_no_turns rfl _
  rw [Node.visits_eq]
  simp [Node.turns, Node.numbered, literalMustache, literalVisits, Node.visits_path, string,
    Node.visits_emptyHash]

theorem visits_listEach (around : List Surrounding) : listEach.visits around =
    ⟨listEach, around⟩ :: ⟨.path ⟨.text "each", none⟩, ⟨listEach, .path⟩ :: around⟩ ::
      ⟨.hash .empty, ⟨listEach, .hash⟩ :: around⟩ ::
      ⟨.block listBlock, ⟨listEach, .program⟩ :: around⟩ ::
      literalVisits (.list []) (⟨.block listBlock, .body 0⟩ :: ⟨listEach, .program⟩ :: around) := by
  have block (around) : (Node.block listBlock).visits around = ⟨.block listBlock, around⟩ ::
      literalVisits (.list []) (⟨.block listBlock, .body 0⟩ :: around) := by
    rw [Node.visits_eq]
    simp [Node.turns, Node.numbered, listBlock, listMustache, visits_literalMustache]
  rw [Node.visits_eq]
  simp [Node.turns, Node.numbered, listEach, Node.visits_path, Node.visits_emptyHash, block]

theorem visits_interruptedTemplate : interruptedTemplate.visits [] =
    visitsBeforeList ++ ⟨listMustache, aroundList⟩ ::
      ((literalVisits (.list []) aroundList).tail ++
        literalVisits (.text "foo") [⟨interruptedTemplate, .body 2⟩]) := by
  rw [Node.visits_eq]
  simp [Node.turns, Node.numbered, interruptedTemplate, fooMustache, visits_literalMustache,
    visits_listEach, visitsBeforeList, aroundList]
  rfl

theorem givesCollection_listMustache : listMustache.GivesCollection (.list []) :=
  ⟨rfl, rfl, rfl, none, [], rfl⟩

theorem step_stops_at_first_collection_interruptedTemplate :
    Node.decode interruptedDocument = .ok interruptedTemplate ∧
    Rule.step ⟨some [("*", .passes []), ("foo", .passes [])], ""⟩ {} interruptedDocument =
      (.error (.check (.nameNotAtomic (.list []))), ⟨some [listEach.frame],
        [⟨fooMustache, "wildcard"⟩, ⟨fooMustache, "foo"⟩, ⟨listEach, "wildcard"⟩,
          ⟨listMustache, "wildcard"⟩].map (Finding.violation "")⟩) := by
  have h : Setting.compile Rule.name (.list [.text "*", .text "foo"]) =
    .ok (some [("*", .passes []), ("foo", .passes [])]) := rfl
  have hn : ∀ q ∈ visitsBeforeList, ∀ value, ¬ q.node.GivesCollection value := by
    have calm : visitsBeforeList.all (·.node.visitFault.isNone) := rfl
    intro q hq
    have hf := Option.isNone_iff_eq_none.mp (List.all_eq_true.mp calm q hq)
    exact Node.visitFault_eq_none_iff.mp hf
  have stops := (step_stops_at_first_collection h decode_interruptedDocument "" {}).2.2 _ _ _
    (.list []) visits_interruptedTemplate hn givesCollection_listMustache
  refine ⟨decode_interruptedDocument, stops.trans ?_⟩
  rfl

end TemplateLint
