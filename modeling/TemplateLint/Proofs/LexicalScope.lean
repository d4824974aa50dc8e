import TemplateLint.Proofs.Places
import TemplateLint.Proofs.Reference

/-!
Where a bound name shadows the blacklist. The frame of a block statement holds the names of its
program, and is there in the whole statement. Lexical scope gives each block and each element the
names that it binds itself.
-/

namespace TemplateLint

open Reference

variable {items : List Value} {b : Blacklist} {name : String}

/-- A node around a place of a tree, and the turn from it towards that place. -/
structure Surrounding where
  parent : Node
  turn : Turn

/-- A node of a tree, and what is around it, innermost first. -/
structure Visit where
  node : Node
  around : List Surrounding

namespace Node

def numbered (turn : Nat → Turn) (vs : List Node) : List (Turn × Node) :=
  vs.mapIdx fun i v => (turn i, v)

/-- The children of a node, each with the turn to it. -/
def turns : Node → List (Turn × Node)
  | template body _ _ => numbered .body body
  | block b => numbered .body b.body
  | blockStatement p params h program inverse _ =>
    (.path, path p) :: numbered .params params ++ (.hash, hash h) :: (.program, block program) ::
      inverse.toList.map fun b => (.inverse, block b)
  | mustacheStatement callee params h _ _ =>
    (.path, callee) :: numbered .params params ++ [(.hash, hash h)]
  | subExpression p params h _ | elementModifier p params h _ =>
    (.path, path p) :: numbered .params params ++ [(.hash, hash h)]
  | hash h => numbered .pairs (h.pairs.map hashPair)
  | hashPair p => [(.value, p.value)]
  | element _ attributes modifiers children _ _ _ =>
    numbered .attributes attributes ++ numbered .modifiers modifiers ++
      numbered .children children
  | attr _ value _ => [(.value, value)]
  | concat parts _ => numbered .parts parts
  | _ => []

theorem map_snd_numbered (turn : Nat → Turn) (vs : List Node) :
    (numbered turn vs).map Prod.snd = vs := by
  apply List.ext_getElem
  · simp [numbered]
  · intro i _ _
    simp [numbered]

theorem map_snd_turns (v : Node) : v.turns.map Prod.snd = v.children := by
  cases v <;> simp [turns, children, map_snd_numbered, Function.comp_def]

theorem mem_children_of_mem_turns {v : Node} {s : Turn × Node} (h : s ∈ v.turns) :
    s.2 ∈ v.children := by
  rw [← map_snd_turns]
  exact List.mem_map_of_mem h

/-- The nodes of a tree that stands below the given nodes, each before its descendants. -/
def visits (around : List Surrounding) (v : Node) : List Visit :=
  ⟨v, around⟩ :: v.turns.attach.flatMap fun ⟨s, _⟩ => s.2.visits (⟨v, s.1⟩ :: around)
termination_by sizeOf v
decreasing_by exact sizeOf_lt_of_mem_children (mem_children_of_mem_turns ‹_›)

theorem visits_eq (around : List Surrounding) (v : Node) :
    v.visits around = ⟨v, around⟩ :: v.turns.flatMap fun s => s.2.visits (⟨v, s.1⟩ :: around) := by
  rw [visits, List.flatMap_subtype (g := fun s => s.2.visits (⟨v, s.1⟩ :: around))
    (fun _ _ => rfl), List.unattach_attach]

theorem visits_of_no_turns {v : Node} (h : v.turns = []) (around : List Surrounding) :
    v.visits around = [⟨v, around⟩] := by
  rw [visits_eq, h, List.flatMap_nil]

theorem visits_path (p : PathExpression) (around : List Surrounding) :
    (path p).visits around = [⟨path p, around⟩] :=
  visits_of_no_turns rfl _

theorem visits_emptyHash (around : List Surrounding) :
    (hash .empty).visits around = [⟨hash .empty, around⟩] :=
  visits_of_no_turns rfl _

theorem mem_visits_self (around : List Surrounding) (v : Node) : ⟨v, around⟩ ∈ v.visits around := by
  rw [visits_eq]
  exact List.mem_cons_self

theorem mem_visits_of_turn {around : List Surrounding} {v : Node} {s : Turn × Node} {p : Visit}
    (hs : s ∈ v.turns) (hp : p ∈ s.2.visits (⟨v, s.1⟩ :: around)) : p ∈ v.visits around := by
  rw [visits_eq]
  exact List.mem_cons_of_mem _ (List.mem_flatMap.mpr ⟨s, hs, hp⟩)

end Node

namespace Surrounding

/-- The names that the node around binds at the place: a block those of its own, and an element
those of its tag for what is between its tags. -/
def binds : Surrounding → List String
  | ⟨.blockStatement _ _ _ program _ _, .program⟩ => program.blockParams
  | ⟨.blockStatement _ _ _ _ (some b) _, .inverse⟩ => b.blockParams
  | ⟨.element _ _ _ _ names _ _, .children _⟩ => names
  | _ => []

/-- The names in the frame of the node around, if it has one. -/
def frameNames (s : Surrounding) : List String :=
  if s.parent.isBlockStatement then s.parent.binds else []

/-- The node around is no element that binds the name for the place, and no block statement that
binds it, unless the place is in its program. -/
def Regular (name : String) : Surrounding → Prop
  | ⟨.blockStatement .., .program⟩ => True
  | ⟨.blockStatement _ _ _ program (some b) _, .inverse⟩ =>
    name ∉ program.blockParams ∧ name ∉ b.blockParams
  | ⟨.blockStatement _ _ _ program _ _, _⟩ => name ∉ program.blockParams
  | ⟨.element _ _ _ _ names _ _, .children _⟩ => name ∉ names
  | _ => True

theorem Regular.mem_frameNames_iff {s : Surrounding} (h : s.Regular name) :
    name ∈ s.frameNames ↔ name ∈ s.binds := by
  obtain ⟨parent, turn⟩ := s
  cases parent with
  | blockStatement p params h program inverse loc =>
    cases turn with
    | program => rfl
    | inverse =>
      cases inverse <;>
        simp_all [Regular, frameNames, binds, Node.isBlockStatement, Node.kind, Node.binds]
    | _ => simp_all [Regular, frameNames, binds, Node.isBlockStatement, Node.kind, Node.binds]
  | element tag attributes modifiers children names selfClosing loc =>
    cases turn <;> simp_all [Regular, frameNames, binds, Node.isBlockStatement, Node.kind]
  | _ => simp [frameNames, binds, Node.isBlockStatement, Node.kind]

/-- The names in the frames of what is around a place. -/
def framed : List Surrounding → Finset String
  | [] => ∅
  | s :: rest => Reference.inner (framed rest) s.parent

theorem mem_framed_iff {around : List Surrounding} :
    name ∈ framed around ↔ ∃ s ∈ around, name ∈ s.frameNames := by
  induction around with
  | nil => simp [framed]
  | cons s rest ih =>
    rw [framed, Reference.inner, List.exists_mem_cons_iff, frameNames]
    by_cases hb : s.parent.isBlockStatement
    · rw [if_pos hb, if_pos hb, Finset.mem_union, List.mem_toFinset, ih]
      exact or_comm
    · rw [if_neg hb, if_neg hb, ih]
      simp

end Surrounding

open Surrounding

namespace Visit

def IsStatement (p : Visit) : Prop :=
  match p.around with
  | ⟨_, .body _⟩ :: _ | ⟨_, .children _⟩ :: _ => True
  | _ => False

def wildcardFindings (items : List Value) (p : Visit) : List Finding :=
  if p.node.isChecked then Reference.wildcardFindings items p.node else []

/-- What is found of a node by the name that it gives to the helper for components. -/
def namedFindings (items : List Value) (p : Visit) : List Finding :=
  if p.node.isChecked then
    Reference.namedFindings items (Reference.inner (framed p.around) p.node) p.node
  else []

def findings (items : List Value) (p : Visit) : List Finding :=
  p.wildcardFindings items ++ p.namedFindings items

theorem findings_eq (items : List Value) (p : Visit) :
    p.findings items = if p.node.isChecked then
      check items (Reference.inner (framed p.around) p.node) p.node else [] := by
  unfold findings wildcardFindings namedFindings check
  split <;> rfl

end Visit

/-- What is found in a tree is what is found of its nodes, each under the frames around it. -/
theorem Reference.node_eq_flatMap_visits (items : List Value) (around : List Surrounding)
    (v : Node) : node items (framed around) v = (v.visits around).flatMap (Visit.findings items) := by
  induction v using Node.childrenInduction generalizing around with
  | step v ih =>
    have hc : v.children.flatMap (node items (Reference.inner (framed around) v)) =
        (v.turns.flatMap fun s => s.2.visits (⟨v, s.1⟩ :: around)).flatMap
          (Visit.findings items) := by
      rw [← Node.map_snd_turns, List.flatMap_map, List.flatMap_assoc]
      apply List.flatMap_congr
      intro s hs
      exact ih s.2 (Node.mem_children_of_mem_turns hs) (⟨v, s.1⟩ :: around)
    rw [node_eq, Node.visits_eq, List.flatMap_cons, hc, Visit.findings_eq]

namespace Visit

variable {p : Visit}

theorem inner_of_mustache (hk : p.node.kind = .mustacheStatement) (env : Finset String) :
    Reference.inner env p.node = env := by
  have hb : p.node.isBlockStatement = false := by simp [Node.isBlockStatement, hk]
  simp [Reference.inner, hb]

/-- A mustache that counts under a name is found by that name, unless a frame around it holds the
head of the name. -/
theorem namedFindings_of_counts (hk : p.node.kind = .mustacheStatement)
    (ht : target? p.node = some name) (hn : name ≠ "*") (hc : counts items name p.node) :
    p.namedFindings items =
      if nameHead name ∈ framed p.around then [] else [⟨p.node, name⟩] := by
  have hv : p.node.isChecked := by simp [Node.isChecked, hk]
  rw [namedFindings, if_pos hv, Reference.namedFindings, ht, inner_of_mustache hk]
  by_cases hm : nameHead name ∈ framed p.around
  · simp [hm]
  · simp [hm, hn, hc]

theorem namedFindings_eq_nil_iff (hk : p.node.kind = .mustacheStatement)
    (ht : target? p.node = some name) (hn : name ≠ "*") (hc : counts items name p.node) :
    p.namedFindings items = [] ↔ ∃ s ∈ p.around, nameHead name ∈ s.frameNames := by
  rw [namedFindings_of_counts hk ht hn hc, ← mem_framed_iff]
  split <;> simp_all

end Visit

/-- What linting a tree without a collection in place of a text gives. -/
theorem Linter.result_eq_sort_visits (tree : Node) (source : String)
    (h : Setting.compile Rule.name (.list items) = .ok (some b))
    (ht : ∀ value loc, .string value loc ∈ tree.occurrences → value.isCollection = false) :
    Linter.result tree [(Rule.name, .list items)] source =
      .ok (Violation.sort
        (((tree.visits []).flatMap (Visit.findings items)).map (Finding.violation source))) := by
  have hf : tree.firstFault = none := Node.firstFault_eq_none_of_texts ht
  have hw := Node.treeEvents_findings h Scope.binds_nil tree
  have hv := node_eq_flatMap_visits items [] tree
  rw [framed] at hv
  rw [Linter.result_of_no_fault h hf, hw, hv]

/-- Linting sorts what is found of the nodes of a tree. A mustache that counts under a name is not
found by that name exactly when a block statement around it binds the head of the name in its
program. Where what is around the mustache is regular for that head, this is exactly when a block or
an element around it binds the head for it. -/
theorem lint_shadows_names (tree : Node) (source : String)
    (h : Setting.compile Rule.name (.list items) = .ok (some b))
    (ht : ∀ value loc, .string value loc ∈ tree.occurrences → value.isCollection = false) :
    Linter.result tree [(Rule.name, .list items)] source =
      .ok (Violation.sort
        (((tree.visits []).flatMap (Visit.findings items)).map (Finding.violation source))) ∧
    ∀ p ∈ tree.visits [], p.node.kind = .mustacheStatement →
      ∀ name, target? p.node = some name → name ≠ "*" → counts items name p.node →
        (p.namedFindings items = [] ∨ p.namedFindings items = [⟨p.node, name⟩]) ∧
        (p.namedFindings items = [] ↔ ∃ s ∈ p.around, nameHead name ∈ s.frameNames) ∧
        ((∀ s ∈ p.around, s.Regular (nameHead name)) →
          (p.namedFindings items = [] ↔ ∃ s ∈ p.around, nameHead name ∈ s.binds)) := by
  refine ⟨Linter.result_eq_sort_visits tree source h ht, ?_⟩
  intro p _ hk name hname hn hc
  have hi := Visit.namedFindings_eq_nil_iff hk hname hn hc
  refine ⟨?_, hi, ?_⟩
  · rw [Visit.namedFindings_of_counts hk hname hn hc]
    split
    · exact .inl rfl
    · exact .inr rfl
  · intro hr
    rw [hi]
    constructor
    · rintro ⟨s, hs, hm⟩
      exact ⟨s, hs, (hr s hs).mem_frameNames_iff.mp hm⟩
    · rintro ⟨s, hs, hm⟩
      exact ⟨s, hs, (hr s hs).mem_frameNames_iff.mpr hm⟩

def fooMustache : Node := literalMustache (.text "foo")

def fooBlock : Block := ⟨[fooMustache], ["foo"], none⟩

def fooEach : Node := .blockStatement ⟨.text "each", none⟩ [] .empty fooBlock none none

/-- The mustache in the block of `Reference.twice`. -/
def visitWithin : Visit := ⟨fooMustache, [⟨.block fooBlock, .body 0⟩, ⟨fooEach, .program⟩,
  ⟨twice, .body 0⟩]⟩

/-- The mustache after the block of `Reference.twice`. -/
def visitAfter : Visit := ⟨fooMustache, [⟨twice, .body 1⟩]⟩

theorem visitWithin_mem : visitWithin ∈ twice.visits [] := by
  have hm : (.body 0, fooMustache) ∈ (Node.block fooBlock).turns := List.mem_singleton_self _
  have hb : (.program, .block fooBlock) ∈ fooEach.turns := by
    simp [fooEach, Node.turns]
  have he : (.body 0, fooEach) ∈ twice.turns := List.mem_cons_self
  exact Node.mem_visits_of_turn he (Node.mem_visits_of_turn hb
    (Node.mem_visits_of_turn hm (Node.mem_visits_self _ _)))

theorem visitAfter_mem : visitAfter ∈ twice.visits [] := by
  have hm : (.body 1, fooMustache) ∈ twice.turns := List.mem_cons_of_mem _ List.mem_cons_self
  exact Node.mem_visits_of_turn hm (Node.mem_visits_self _ _)

theorem lint_shadows_names_twice :
    visitWithin.IsStatement ∧ visitWithin.namedFindings [.text "foo"] = [] ∧
    visitAfter.IsStatement ∧ visitAfter.namedFindings [.text "foo"] = [⟨fooMustache, "foo"⟩] := by
  have h : Setting.compile Rule.name (.list [.text "foo"]) =
    .ok (some [("*", .never), ("foo", .passes [])]) := rfl
  have hl := (lint_shadows_names twice "" h texts_twice).2
  have hname : target? fooMustache = some "foo" := rfl
  have hcount : counts [.text "foo"] "foo" fooMustache := rfl
  have hn : "foo" ≠ "*" := by decide
  obtain ⟨-, -, within⟩ := hl visitWithin visitWithin_mem rfl "foo" hname hn hcount
  obtain ⟨one, -, after⟩ := hl visitAfter visitAfter_mem rfl "foo" hname hn hcount
  have head : nameHead "foo" = "foo" := by decide
  refine ⟨trivial, ?_, trivial, ?_⟩
  · refine (within ?_).mpr ⟨⟨fooEach, .program⟩, by simp [visitWithin], ?_⟩
    · simp [visitWithin, Regular, fooEach, twice]
    · rw [head]
      exact List.mem_singleton_self _
  · have hr : ∀ s ∈ visitAfter.around, s.Regular (nameHead "foo") := by
      simp [visitAfter, Regular, twice]
    rcases one with hnone | hone
    · obtain ⟨s, hs, hm⟩ := (after hr).mp hnone
      simp [visitAfter] at hs
      subst hs
      cases hm
    · exact hone

/-- An element that binds a name around a mustache that gives it to the helper for components. -/
def elementTemplate : Node :=
  .template [.element (.text "Foo") [] [] [fooMustache] ["foo"] false none] [] none

def elementDocument : Value :=
  .table [("type", .text "Template"), ("body", .list [.table [
    ("type", .text "ElementNode"), ("tag", .text "Foo"), ("blockParams", .list [.text "foo"]),
    ("children", .list [.table [
      ("type", .text "MustacheStatement"),
      ("path", .table [("type", .text "PathExpression"), ("original", .text "component")]),
      ("params", .list [.table [("type", .text "StringLiteral"), ("value", .text "foo")]])]])]])]

theorem decode_elementDocument : Node.decode elementDocument = .ok elementTemplate := by
  have names : (Value.list [.text "foo"]).texts? = some ["foo"] := rfl
  simp [names, Node.decode, elementDocument, elementTemplate, fooMustache, literalMustache, Decode.node,
    Decode.object, Decode.nodes, Decode.all, Decode.required, Decode.require, Decode.hash,
    Decode.blockParams, Decode.trusting, Location.decode, Kind.ofValue?, Kind.ofName?, Kind.all,
    Kind.name, Fields.getD, Named.get?, List.lookup_cons, List.lookup_nil, Value.truthy, bind,
    Except.bind, pure, Except.pure]

/-- The mustache between the tags of `elementTemplate`. -/
def visitBetweenTags : Visit :=
  ⟨fooMustache, [⟨.element (.text "Foo") [] [] [fooMustache] ["foo"] false none, .children 0⟩,
    ⟨elementTemplate, .body 0⟩]⟩

/-- The names of an element do not shadow what is between its tags. -/
theorem lint_reports_element_names :
    Node.decode elementDocument = .ok elementTemplate ∧
    Linter.result elementTemplate [(Rule.name, .list [.text "foo"])] "" =
      .ok [⟨Rule.name, blacklistedMessage "foo", none, none, ""⟩] ∧
    visitBetweenTags ∈ elementTemplate.visits [] ∧ visitBetweenTags.IsStatement ∧
    visitBetweenTags.namedFindings [.text "foo"] = [⟨fooMustache, "foo"⟩] ∧
    ∃ s ∈ visitBetweenTags.around, nameHead "foo" ∈ s.binds := by
  have h : Setting.compile Rule.name (.list [.text "foo"]) =
    .ok (some [("*", .never), ("foo", .passes [])]) := rfl
  have found : node [.text "foo"] ∅ elementTemplate = [⟨fooMustache, "foo"⟩] := rfl
  have texts : ∀ value loc, .string value loc ∈ elementTemplate.occurrences →
      value.isCollection = false := by
    intro value loc hs
    have hv : value = .text "foo" ∧ loc = none := by
      simpa [Node.occurrences_eq, Node.children, elementTemplate, fooMustache, literalMustache,
        Hash.empty] using hs
    rw [hv.1]
    rfl
  have tags : (.body 0, .element (.text "Foo") [] [] [fooMustache] ["foo"] false none) ∈
      elementTemplate.turns := List.mem_singleton_self _
  have between : (.children 0, fooMustache) ∈
      (Node.element (.text "Foo") [] [] [fooMustache] ["foo"] false none).turns :=
    List.mem_singleton_self _
  refine ⟨decode_elementDocument, ?_, ?_, trivial, ?_, ?_⟩
  · rw [Linter.result_eq_sort_visits elementTemplate "" h texts, ← node_eq_flatMap_visits, framed,
      found]
    simp [Violation.sort, Finding.violation, fooMustache, literalMustache, Node.loc,
      Location.snippet]
  · exact Node.mem_visits_of_turn tags
      (Node.mem_visits_of_turn between (Node.mem_visits_self _ _))
  · rfl
  · refine ⟨⟨.element (.text "Foo") [] [] [fooMustache] ["foo"] false none, .children 0⟩, ?_, ?_⟩
    · exact List.mem_cons_self
    · decide

end TemplateLint
