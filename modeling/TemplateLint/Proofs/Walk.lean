import TemplateLint.Lint.Checker
import TemplateLint.Proofs.Executions
import TemplateLint.Proofs.Steps

/-! What the steps of a checking walk do to its scope and its trace. -/

namespace TemplateLint

variable {b : Blacklist} {node : Node} {name : String} {scope : Scope} {w w' : Walk}

/-- A walk with a scope of its own and more events. -/
def Walk.advance (w : Walk) (scope : Scope) (events : List Event) : Walk :=
  ⟨scope, w.trace ++ events⟩

@[simp] theorem Walk.scope_advance (events : List Event) : (w.advance scope events).scope = scope :=
  rfl

@[simp] theorem Walk.toList_trace_advance (events : List Event) :
    (w.advance scope events).trace.toList = w.trace.toList ++ events := by
  simp [advance]

@[simp] theorem Walk.advance_nil : w.advance w.scope [] = w := by
  simp [advance]

@[simp] theorem Walk.advance_advance (scope' : Scope) (xs ys : List Event) :
    (w.advance scope xs).advance scope' ys = w.advance scope' (xs ++ ys) :=
  congrArg (Walk.mk scope') (Array.ext' (by simp))

namespace WalkM

@[simp] theorem exec_note (event : Event) :
    exec (note event) w = (.ok (), w.advance w.scope [event]) := by
  change (Except.ok (), { w with trace := w.trace.push event }) = _
  simp [Walk.advance]

@[simp] theorem exec_report (label : String) :
    exec (report node label) w = (.ok (), w.advance w.scope [.found ⟨node, label⟩]) :=
  exec_note _

theorem exec_pushFrame (node : Node) :
    exec (pushFrame node) w = (.ok node.frame, w.advance (node.frame :: w.scope)
      [.pushed (w.scope.length + 1) node.frame]) := by
  change (Except.ok node.frame, (⟨node.frame :: w.scope,
    w.trace.push (.pushed (node.frame :: w.scope).length node.frame)⟩ : Walk)) = _
  simp [Walk.advance]

theorem exec_popFrame_nil (h : w.scope = []) : exec popFrame w = (.error .emptyScope, w) := by
  simp [popFrame, exec_bind, h]

theorem exec_popFrame_cons {frame : Frame} (h : w.scope = frame :: scope) :
    exec popFrame w = (.ok frame, w.advance scope [.popped (scope.length + 1)]) := by
  simp only [popFrame, exec_bind, exec_get, h]
  change (Except.ok frame, (⟨scope, w.trace.push (.popped (scope.length + 1))⟩ : Walk)) = _
  simp [Walk.advance]

end WalkM

/-- The outcome of a part of a walk with the given fault, or with none. -/
def CheckFault.outcome : Option CheckFault → Except CheckFault Unit
  | none => .ok ()
  | some e => .error e

theorem CheckFault.outcome_eq_ok {e : Option CheckFault} : outcome e = .ok () ↔ e = none := by
  cases e <;> simp [outcome]

open WalkM CheckFault

namespace Blacklist

/-- What the check by name notes. -/
def nameEvents (b : Blacklist) (scope : Scope) (node : Node) (name : String) : List Event :=
  if name = wildcard then []
  else
    match b.get? name with
    | none => []
    | some condition =>
      if condition.holds node then
        if scope.isLocal name then [.shadowed name] else [.found ⟨node, name⟩]
      else []

/-- What a check notes, a fault or not. -/
def checkEvents (b : Blacklist) (scope : Scope) (node : Node) : List Event :=
  (if b.wildcardCondition.holds node then [.found ⟨node, wildcardLabel⟩] else []) ++
    match node.componentTarget? with
    | some (.text name) => b.nameEvents scope node name
    | _ => []

end Blacklist

/-- The fault of the check of a node. It does not depend on the blacklist. -/
def Node.checkFault (node : Node) : Option CheckFault :=
  if node.callee?.isNone then some (.notInvocation node.kind)
  else
    match node.componentTarget? with
    | some (.list items) => some (.nameNotAtomic (.list items))
    | some (.table fields) => some (.nameNotAtomic (.table fields))
    | _ => none

theorem Node.componentTarget?_of_callee?_none (h : node.callee? = none) :
    node.componentTarget? = none := by
  simp [componentTarget?, invokedName?, h]

namespace Blacklist

theorem exec_checkName (b : Blacklist) (node : Node) (name : String) (w : Walk) :
    exec (b.checkName node name) w =
      (.ok (), w.advance w.scope (b.nameEvents w.scope node name)) := by
  unfold checkName nameEvents
  by_cases hn : name = wildcard
  · simp [hn]
  · cases hg : b.get? name with
    | none => simp [hn]
    | some condition =>
      by_cases hh : condition.holds node
      · by_cases hl : w.scope.isLocal name <;> simp [hn, hh, hl, exec_bind]
      · simp [hn, hh]

theorem exec_check (b : Blacklist) (node : Node) (w : Walk) :
    exec (b.check node) w =
      (outcome node.checkFault, w.advance w.scope (b.checkEvents w.scope node)) := by
  unfold check checkEvents Node.checkFault
  cases hc : node.callee? with
  | none =>
    have ht := Node.componentTarget?_of_callee?_none hc
    by_cases hw : b.wildcardCondition.holds node <;> simp [hw, ht, exec_bind, outcome]
  | some callee =>
    by_cases hw : b.wildcardCondition.holds node <;>
      rcases ht : node.componentTarget? with _ | _ | _ | _ | _ | _ | _ | _ | _ <;>
      simp [hw, exec_bind, exec_checkName, outcome]

theorem exec_enterBlock (b : Blacklist) (node : Node) (w : Walk) :
    exec (b.enterBlock node) w =
      (outcome node.checkFault, w.advance (node.frame :: w.scope)
        (.pushed (w.scope.length + 1) node.frame ::
          b.checkEvents (node.frame :: w.scope) node)) := by
  unfold enterBlock
  simp [exec_bind, exec_pushFrame, exec_check]

theorem exec_exitBlock (node : Node) (w : Walk) :
    exec (exitBlock node) w =
      (outcome (if w.scope = [] then some .emptyScope else none), w.advance w.scope.tail
        (if w.scope = [] then [] else [.popped w.scope.length])) := by
  simp only [exitBlock, exec_bind]
  cases hs : w.scope with
  | nil =>
    have hw : w.advance [] [] = w := by rw [← hs, Walk.advance_nil]
    rw [exec_popFrame_nil hs]
    simp [outcome, hw]
  | cons frame outer =>
    rw [exec_popFrame_cons hs]
    simp [outcome]

end Blacklist

namespace Step

def scopeAfter (s : Step) (scope : Scope) : Scope :=
  match s.phase, s.node.kind with
  | .enter, .blockStatement => s.node.frame :: scope
  | .exit, .blockStatement => scope.tail
  | _, _ => scope

def fault (s : Step) (scope : Scope) : Option CheckFault :=
  match s.phase, s.node.kind with
  | .enter, .blockStatement | .enter, .mustacheStatement | .enter, .subExpression =>
    s.node.checkFault
  | .exit, .blockStatement => if scope = [] then some .emptyScope else none
  | _, _ => none

def events (b : Blacklist) (s : Step) (scope : Scope) : List Event :=
  match s.phase, s.node.kind with
  | .enter, .blockStatement =>
    .pushed (scope.length + 1) s.node.frame :: b.checkEvents (s.node.frame :: scope) s.node
  | .enter, .mustacheStatement | .enter, .subExpression => b.checkEvents scope s.node
  | .exit, .blockStatement => if scope = [] then [] else [.popped scope.length]
  | _, _ => []

/-- One step of a walk, with a fault or without one. -/
theorem exec_act (b : Blacklist) (s : Step) (w : Walk) :
    exec (s.act b.visitor) w =
      (outcome (s.fault w.scope), w.advance (s.scopeAfter w.scope) (s.events b w.scope)) := by
  obtain ⟨phase, node, above⟩ := s
  cases phase with
  | enter =>
    cases hk : node.kind <;>
      simp [act, Blacklist.visitor, Handler.onEnter, scopeAfter, fault, events, hk,
        Blacklist.exec_enterBlock, Blacklist.exec_check, outcome]
  | exit =>
    cases hk : node.kind <;>
      simp [act, Blacklist.visitor, Handler.onExit, scopeAfter, fault, events, hk,
        Blacklist.exec_exitBlock, outcome]

end Step

/-- What some steps of a walk come to: they stop at the first fault. -/
structure Progress where
  events : List Event
  fault : Option CheckFault
  scope : Scope

namespace Progress

/-- Goes on from where there was no fault. -/
def andThen (p : Progress) (next : Scope → Progress) : Progress :=
  match p.fault with
  | some _ => p
  | none => { next p.scope with events := p.events ++ (next p.scope).events }

def ofStep (b : Blacklist) (scope : Scope) (s : Step) : Progress :=
  ⟨s.events b scope, s.fault scope, s.scopeAfter scope⟩

def ofSteps (b : Blacklist) (scope : Scope) : List Step → Progress
  | [] => ⟨[], none, scope⟩
  | s :: rest => (ofStep b scope s).andThen fun inner => ofSteps b inner rest

theorem andThen_of_fault {p : Progress} {e : CheckFault} (h : p.fault = some e)
    (next : Scope → Progress) : p.andThen next = p := by
  simp [andThen, h]

theorem andThen_of_no_fault {p : Progress} (h : p.fault = none) (next : Scope → Progress) :
    p.andThen next = ⟨p.events ++ (next p.scope).events, (next p.scope).fault,
      (next p.scope).scope⟩ := by
  simp [andThen, h]

theorem andThen_assoc (p : Progress) (f g : Scope → Progress) :
    (p.andThen f).andThen g = p.andThen fun scope => (f scope).andThen g := by
  cases h : p.fault with
  | some e => simp [andThen_of_fault h]
  | none =>
    cases hf : (f p.scope).fault with
    | some e => simp [andThen, h, hf]
    | none => simp [andThen, h, hf]

theorem ofSteps_append (b : Blacklist) (scope : Scope) (xs ys : List Step) :
    ofSteps b scope (xs ++ ys) = (ofSteps b scope xs).andThen fun inner => ofSteps b inner ys := by
  induction xs generalizing scope with
  | nil => simp [ofSteps, andThen]
  | cons s rest ih => simp only [List.cons_append, ofSteps, ih, andThen_assoc]

theorem ofSteps_cons_of_fault {s : Step} {e : CheckFault} (h : s.fault scope = some e)
    (rest : List Step) : ofSteps b scope (s :: rest) = ofStep b scope s :=
  andThen_of_fault h _

theorem ofSteps_cons_of_no_fault {s : Step} (h : s.fault scope = none) (rest : List Step) :
    ofSteps b scope (s :: rest) =
      ⟨s.events b scope ++ (ofSteps b (s.scopeAfter scope) rest).events,
        (ofSteps b (s.scopeAfter scope) rest).fault, (ofSteps b (s.scopeAfter scope) rest).scope⟩ :=
  andThen_of_no_fault h _

theorem fault_head_eq_none {s : Step} {rest : List Step}
    (h : (ofSteps b scope (s :: rest)).fault = none) : s.fault scope = none := by
  cases hs : s.fault scope with
  | none => rfl
  | some e =>
    rw [ofSteps_cons_of_fault hs] at h
    exact hs.symm.trans h

/-- A run of steps, with a fault or without one. -/
theorem exec_forM_act (b : Blacklist) (steps : List Step) (w : Walk) :
    exec (steps.forM (Step.act b.visitor)) w =
      (outcome (ofSteps b w.scope steps).fault,
        w.advance (ofSteps b w.scope steps).scope (ofSteps b w.scope steps).events) := by
  induction steps generalizing w with
  | nil => simp [ofSteps, outcome, List.forM_eq_forM]
  | cons s rest ih =>
    rw [List.forM_eq_forM] at ih ⊢
    rw [List.forM_cons, exec_bind, Step.exec_act]
    cases hf : s.fault w.scope with
    | some e =>
      rw [ofSteps_cons_of_fault hf]
      simp [ofStep, hf, outcome]
    | none =>
      rw [ofSteps_cons_of_no_fault hf]
      simp [outcome, ih]

end Progress

end TemplateLint
