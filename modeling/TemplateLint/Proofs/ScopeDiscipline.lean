import TemplateLint.Lint.Rule
import TemplateLint.Proofs.TreeWalk

/-!
Scope discipline. A walk gives back the scope that it found, every check sees the frames of the
block statements on the path to its node, and the log of frames is bracketed.
-/

namespace TemplateLint

open WalkM CheckFault

variable {b : Blacklist} {base scope : Scope} {above : List Node} {node root : Node}

/-- The frames of the block statements on a path, innermost first. -/
def blockFrames (path : List Node) : Scope :=
  (path.filter Node.isBlockStatement).map Node.frame

theorem inner_blockFrames (base : Scope) (above : List Node) (node : Node) :
    node.inner (blockFrames above ++ base) = blockFrames (node :: above) ++ base := by
  by_cases h : node.isBlockStatement <;> simp [Node.inner, blockFrames, h]

def scopeAfterAll (steps : List Step) (scope : Scope) : Scope :=
  steps.foldl (fun scope s => s.scopeAfter scope) scope

theorem scopeAfterAll_append (xs ys : List Step) (scope : Scope) :
    scopeAfterAll (xs ++ ys) scope = scopeAfterAll ys (scopeAfterAll xs scope) :=
  List.foldl_append

theorem Progress.scope_ofSteps {steps : List Step} (h : (ofSteps b scope steps).fault = none) :
    (ofSteps b scope steps).scope = scopeAfterAll steps scope := by
  induction steps generalizing scope with
  | nil => rfl
  | cons s rest ih =>
    have hs := fault_head_eq_none h
    rw [ofSteps_cons_of_no_fault hs] at h ⊢
    exact ih h

theorem scope_of_exec_forM {steps : List Step} {w w' : Walk}
    (h : exec (steps.forM (Step.act b.visitor)) w = (.ok (), w')) :
    w'.scope = scopeAfterAll steps w.scope := by
  rw [Progress.exec_forM_act, Prod.mk.injEq, outcome_eq_ok] at h
  obtain ⟨hf, rfl⟩ := h
  exact Progress.scope_ofSteps hf

theorem scopeAfterAll_cons (s : Step) (rest : List Step) (scope : Scope) :
    scopeAfterAll (s :: rest) scope = scopeAfterAll rest (s.scopeAfter scope) := rfl

/-- Some steps below a place give back its scope, and whenever they enter a node the scope holds the
frames of the path above that node. -/
def Follows (base : Scope) (above : List Node) (steps : List Step) : Prop :=
  scopeAfterAll steps (blockFrames above ++ base) = blockFrames above ++ base ∧
  ∀ before s after, steps = before ++ s :: after → s.phase = .enter →
    scopeAfterAll before (blockFrames above ++ base) = blockFrames s.above ++ base

theorem follows_nil : Follows base above [] := by
  refine ⟨rfl, ?_⟩
  intro before s after h
  cases before <;> cases h

theorem Follows.append {xs ys : List Step} (hx : Follows base above xs)
    (hy : Follows base above ys) : Follows base above (xs ++ ys) := by
  refine ⟨?_, ?_⟩
  · rw [scopeAfterAll_append, hx.1, hy.1]
  · intro before s after h he
    rcases List.append_eq_append_iff.mp h with ⟨more, rfl, hm⟩ | ⟨more, rfl, hm⟩
    · rw [scopeAfterAll_append, hx.1]
      exact hy.2 more s after hm he
    · cases more with
      | nil =>
        rw [List.append_nil] at hx
        exact hx.1.trans (hy.2 [] s after hm.symm he)
      | cons t more =>
        cases hm
        exact hx.2 before s more rfl he

theorem Follows.flatMap {trees : List Node}
    (h : ∀ tree ∈ trees, Follows base above (tree.steps above)) :
    Follows base above (trees.flatMap (Node.steps above)) := by
  induction trees with
  | nil => exact follows_nil
  | cons tree rest ih =>
    rw [List.flatMap_cons]
    exact (h tree List.mem_cons_self).append (ih fun t ht => h t (List.mem_cons_of_mem tree ht))

theorem Follows.around {inside : List Step} (h : Follows base (node :: above) inside) :
    Follows base above (⟨.enter, node, above⟩ :: inside ++ [⟨.exit, node, above⟩]) := by
  have enter : Step.scopeAfter ⟨.enter, node, above⟩ (blockFrames above ++ base) =
      blockFrames (node :: above) ++ base :=
    (Node.scopeAfter_enter node above _).trans (inner_blockFrames base above node)
  have exit : Step.scopeAfter ⟨.exit, node, above⟩ (blockFrames (node :: above) ++ base) =
      blockFrames above ++ base := by
    rw [← inner_blockFrames]
    exact Node.scopeAfter_exit node above _
  refine ⟨?_, ?_⟩
  · rw [List.cons_append, scopeAfterAll_cons, enter, scopeAfterAll_append, h.1]
    exact exit
  · intro before s after hs he
    cases before with
    | nil =>
      cases hs
      rfl
    | cons t before =>
      rw [List.cons_append, List.cons_append, List.cons.injEq] at hs
      obtain ⟨rfl, hs⟩ := hs
      rw [scopeAfterAll_cons, enter]
      rcases List.append_eq_append_iff.mp hs with ⟨more, rfl, hm⟩ | ⟨more, rfl, hm⟩
      · cases more with
        | nil =>
          cases hm
          cases he
        | cons t more => simp at hm
      · cases more with
        | nil =>
          cases hm
          cases he
        | cons t more =>
          cases hm
          exact h.2 before s more rfl he

theorem follows_steps (base : Scope) (above : List Node) (root : Node) :
    Follows base above (root.steps above) := by
  induction root using Node.childrenInduction generalizing above with
  | step root ih =>
    rw [Node.steps_eq]
    exact (Follows.flatMap fun child hc => ih child hc (root :: above)).around

/-- What a log says of the frames. -/
inductive ScopeMark where
  | push (number : Nat)
  | pop (number : Nat)

namespace ScopeMark

def isPush : ScopeMark → Bool
  | push _ => true
  | pop _ => false

/-- A record says that a frame was pushed, with some names, or that one was popped. -/
def Logs : ScopeMark → Log.Record → Prop
  | push number, r => ∃ names, r.message = "push frame " ++ toString number ++ ": " ++ names
  | pop number, r => r.message = "pop frame " ++ toString number

/-- Frames above a depth are pushed and popped in pairs, and a pop has the number of its push. -/
inductive Bracketed : Nat → List ScopeMark → Prop
  | nil (depth : Nat) : Bracketed depth []
  | frame {depth : Nat} {inside after : List ScopeMark} (hi : Bracketed (depth + 1) inside)
      (ha : Bracketed depth after) :
      Bracketed depth (push (depth + 1) :: inside ++ pop (depth + 1) :: after)

theorem Bracketed.append {depth : Nat} {xs ys : List ScopeMark} (hx : Bracketed depth xs)
    (hy : Bracketed depth ys) : Bracketed depth (xs ++ ys) := by
  induction hx with
  | nil => exact hy
  | frame hi _ _ ih =>
    rw [List.append_assoc, List.cons_append]
    exact .frame hi (ih hy)

theorem Bracketed.flatMap {depth : Nat} {trees : List Node} {f : Node → List ScopeMark}
    (h : ∀ tree ∈ trees, Bracketed depth (f tree)) : Bracketed depth (trees.flatMap f) := by
  induction trees with
  | nil => exact .nil depth
  | cons tree rest ih =>
    rw [List.flatMap_cons]
    exact (h tree List.mem_cons_self).append (ih fun t ht => h t (List.mem_cons_of_mem tree ht))

end ScopeMark

open ScopeMark

def Event.mark? : Event → Option ScopeMark
  | .pushed depth _ => some (.push depth)
  | .popped depth => some (.pop depth)
  | _ => none

theorem logs_marks (events : List Event) :
    List.Forall₂ Logs (events.filterMap Event.mark?)
      ((events.map Event.record).filter (·.channel = Log.scopeChannel)) := by
  induction events with
  | nil => exact .nil
  | cons event rest ih =>
    cases event with
    | pushed depth frame => exact .cons ⟨_, rfl⟩ ih
    | popped depth => exact .cons rfl ih
    | shadowed name => exact ih
    | found finding => exact ih

/-- A check pushes and pops no frame. -/
theorem marks_checkEvents (b : Blacklist) (scope : Scope) (node : Node) :
    (b.checkEvents scope node).filterMap Event.mark? = [] := by
  rw [List.filterMap_eq_nil_iff]
  intro event he
  rw [Blacklist.checkEvents, List.mem_append] at he
  rcases he with he | he
  · split at he
    · cases List.mem_singleton.mp he
      rfl
    · cases he
  · split at he
    · unfold Blacklist.nameEvents at he
      grind [Event.mark?]
    · cases he

def Node.marks (b : Blacklist) (scope : Scope) (node : Node) : List ScopeMark :=
  (node.treeEvents b scope).filterMap Event.mark?

theorem Node.marks_eq (b : Blacklist) (scope : Scope) (node : Node) :
    node.marks b scope =
      if node.isBlockStatement then
        push (scope.length + 1) :: node.children.flatMap (marks b (node.frame :: scope)) ++
          [pop (scope.length + 1)]
      else node.children.flatMap (marks b scope) := by
  unfold marks
  rw [treeEvents_eq, List.filterMap_append, List.filterMap_append, List.filterMap_flatMap]
  cases hk : node.kind <;>
    simp [isBlockStatement, inner, Step.events, hk, marks_checkEvents, Event.mark?]

theorem Node.bracketed_marks (b : Blacklist) (scope : Scope) (root : Node) :
    Bracketed scope.length (root.marks b scope) := by
  induction root using childrenInduction generalizing scope with
  | step root ih =>
    rw [marks_eq]
    split
    · exact .frame (Bracketed.flatMap fun child hc => ih child hc (root.frame :: scope)) (.nil _)
    · exact Bracketed.flatMap fun child hc => ih child hc scope

theorem countP_flatMap_congr {α β γ : Type} {xs : List α} {f : α → List β} {g : α → List γ}
    {p : β → Bool} {q : γ → Bool} (h : ∀ x ∈ xs, (f x).countP p = (g x).countP q) :
    (xs.flatMap f).countP p = (xs.flatMap g).countP q := by
  rw [List.countP_flatMap, List.countP_flatMap]
  exact congrArg List.sum (List.map_congr_left h)

theorem Node.countP_marks (b : Blacklist) (scope : Scope) (root : Node) :
    (root.marks b scope).countP ScopeMark.isPush = root.occurrences.countP isBlockStatement := by
  induction root using childrenInduction generalizing scope with
  | step root ih =>
    have hc (scope : Scope) := countP_flatMap_congr fun child hc => ih child hc scope
    rw [marks_eq, occurrences_eq]
    split <;> rename_i hb
    · simp [List.countP_cons, hb, isPush, hc]
    · simp [hb, hc]

/-- What happens at a node before its check: the frame of a block statement is pushed. -/
def WalkM.arrive (node : Node) : WalkM Unit := do
  if node.isBlockStatement then
    let _ ← pushFrame node

theorem Step.act_enter (b : Blacklist) (hn : node.isChecked) :
    Step.act b.visitor ⟨.enter, node, above⟩ = arrive node >>= fun _ => b.check node := by
  cases hk : node.kind <;>
    simp_all [Node.isChecked, Step.act, Blacklist.visitor, Handler.onEnter, arrive,
      Node.isBlockStatement, Blacklist.enterBlock]

theorem exec_arrive (node : Node) (w : Walk) :
    ∃ events, exec (arrive node) w = (.ok (), w.advance (node.inner w.scope) events) := by
  by_cases hb : node.isBlockStatement
  · refine ⟨[.pushed (w.scope.length + 1) node.frame], ?_⟩
    simp [arrive, hb, exec_map, exec_pushFrame, Node.inner]
  · refine ⟨[], ?_⟩
    simp [arrive, hb, Node.inner]

/-- The records on the channel of scopes are a bracketed log of so many frames. -/
def FramesLogged (depth count : Nat) (records : List Log.Record) : Prop :=
  ∃ marks, List.Forall₂ Logs marks (records.filter (·.channel = Log.scopeChannel)) ∧
    Bracketed depth marks ∧ marks.countP isPush = count

theorem framesLogged_treeEvents (b : Blacklist) (scope : Scope) (root : Node) :
    FramesLogged scope.length (root.occurrences.countP Node.isBlockStatement)
      ((root.treeEvents b scope).map Event.record) :=
  ⟨root.marks b scope, logs_marks _, root.bracketed_marks b scope, root.countP_marks b scope⟩

theorem records_advance (w : Walk) (scope : Scope) (events : List Event) :
    (w.advance scope events).records = w.records ++ events.map Event.record := by
  simp [Walk.records]

theorem scope_of_arrival {before : List Step} {w w' : Walk}
    (h : exec (before.forM (Step.act b.visitor) >>= fun _ => arrive node) w = (.ok (), w')) :
    w'.scope = node.inner (scopeAfterAll before w.scope) := by
  rw [exec_bind] at h
  rcases he : exec (before.forM (Step.act b.visitor)) w with ⟨_ | _, w₁⟩
  · rw [he] at h
    cases h
  · rw [he] at h
    obtain ⟨events, ha⟩ := exec_arrive node w₁
    simp only [ha, Prod.mk.injEq, true_and] at h
    rw [← h, Walk.scope_advance, scope_of_exec_forM he]

/-- A walk that comes to its end leaves the scope that it found, and logs each frame when it is
pushed and when it is popped. It checks a node with the frames of the block statements on the path
from the root to that node, each of which holds the names that the program binds. -/
theorem walk_keeps_scope (b : Blacklist) (root : Node) (w : Walk) :
    (∀ w', exec (root.traverse b.visitor) w = (.ok (), w') →
      w'.scope = w.scope ∧
      ∃ records, w'.records = w.records ++ records ∧
        FramesLogged w.scope.length (root.occurrences.countP Node.isBlockStatement) records) ∧
    root.traverse b.visitor = (root.steps []).forM (Step.act b.visitor) ∧
    (∀ before s after, root.steps [] = before ++ s :: after → s.phase = .enter →
      s.node.isChecked →
      root.IsPath (s.node :: s.above) ∧
      s.act b.visitor = (arrive s.node >>= fun _ => b.check s.node) ∧
      ∀ w', exec (before.forM (Step.act b.visitor) >>= fun _ => arrive s.node) w = (.ok (), w') →
        w'.scope = blockFrames (s.node :: s.above) ++ w.scope) ∧
    ∀ path params hash program inverse loc name,
      name ∈ (Node.blockStatement path params hash program inverse loc).frame.names ↔
        name ∈ program.blockParams := by
  refine ⟨?_, Node.traverse_eq_forM_steps _ _ _, ?_, fun _ _ _ _ _ _ _ => mem_names_frame⟩
  · intro w' h
    rw [Node.exec_traverse b (Node.firstFault_eq_none_of_exec h), Prod.mk.injEq] at h
    obtain ⟨-, rfl⟩ := h
    exact ⟨rfl, _, records_advance w _ _, framesLogged_treeEvents b w.scope root⟩
  · intro before s after hs he hn
    have hm : s ∈ root.steps [] := by
      rw [hs]
      exact List.mem_append_right _ List.mem_cons_self
    obtain ⟨path, hp, hr⟩ := Node.exists_path_of_mem_steps hm
    rw [List.append_nil] at hp
    refine ⟨hp ▸ hr, ?_, ?_⟩
    · obtain ⟨phase, node, above⟩ := s
      cases he
      exact Step.act_enter b hn
    · intro w' h
      have hf := (follows_steps w.scope [] root).2 before s after hs he
      rw [scope_of_arrival h, ← inner_blockFrames, ← hf]
      rfl

def itemMustache : Node := .mustacheStatement (.path ⟨.text "item", none⟩) [] .empty false none

def itemBlock : Block := ⟨[itemMustache], ["item"], none⟩

/-- A block statement that binds a name around a mustache that writes it. -/
def eachItem : Node := .blockStatement ⟨.text "each", none⟩ [] .empty itemBlock none none

theorem firstFault_eachItem : eachItem.firstFault = none := by
  have ho : eachItem.occurrences = [eachItem, .path ⟨.text "each", none⟩, .hash .empty,
      .block itemBlock, itemMustache, .path ⟨.text "item", none⟩, .hash .empty] := by
    simp [Node.occurrences_eq, Node.children, eachItem, itemBlock, itemMustache, Hash.empty]
  rw [Node.firstFault, ho]
  rfl

/-- The steps of a walk of `eachItem` before it enters the mustache. -/
def stepsToItem : List Step :=
  [⟨.enter, eachItem, []⟩, ⟨.enter, .path ⟨.text "each", none⟩, [eachItem]⟩,
    ⟨.exit, .path ⟨.text "each", none⟩, [eachItem]⟩, ⟨.enter, .hash .empty, [eachItem]⟩,
    ⟨.exit, .hash .empty, [eachItem]⟩, ⟨.enter, .block itemBlock, [eachItem]⟩]

theorem steps_eachItem : ∃ after, eachItem.steps [] =
    stepsToItem ++ ⟨.enter, itemMustache, [.block itemBlock, eachItem]⟩ :: after := by
  rw [stepsToItem]
  simp only [Node.steps_eq, eachItem, Node.children, Hash.empty, itemBlock, itemMustache]
  simp [Node.steps_eq, Node.children]

theorem frame_eachItem : eachItem.frame = ⟨["item"]⟩ := by
  simp [Node.frame, eachItem, Node.binds, itemBlock, Text.sortedNames, List.eraseDups_cons]

theorem walk_keeps_scope_eachItem :
    (∃ w', exec (eachItem.traverse Blacklist.base.visitor) {} = (.ok (), w') ∧ w'.scope = []) ∧
    ∃ w', exec (stepsToItem.forM (Step.act Blacklist.base.visitor) >>= fun _ =>
      arrive itemMustache) {} = (.ok (), w') ∧ w'.scope = [⟨["item"]⟩] := by
  have h := walk_keeps_scope Blacklist.base eachItem {}
  constructor
  · have he := Node.exec_traverse Blacklist.base firstFault_eachItem {}
    exact ⟨_, he, (h.1 _ he).1⟩
  · obtain ⟨after, hs⟩ := steps_eachItem
    have hf : (Progress.ofSteps Blacklist.base [] stepsToItem).fault = none := rfl
    have he : ∃ w', exec (stepsToItem.forM (Step.act Blacklist.base.visitor) >>= fun _ =>
        arrive itemMustache) {} = (.ok (), w') := by
      rw [exec_bind, Progress.exec_forM_act, hf]
      obtain ⟨events, ha⟩ := exec_arrive itemMustache _
      exact ⟨_, ha⟩
    obtain ⟨w', he⟩ := he
    refine ⟨w', he, ?_⟩
    rw [(h.2.2.1 _ _ _ hs rfl rfl).2.2 w' he, ← frame_eachItem]
    rfl

end TemplateLint
