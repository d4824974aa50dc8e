import TemplateLint.Lint.Rule
import TemplateLint.Proofs.Reference

/-!
The checker under calls in any order. Main statement: after any calls the scope holds the frames of
what was entered and not left, and a report depends on these frames alone.
-/

namespace TemplateLint

open CheckFault

/-- A call of the checker. -/
inductive Call where
  | enter (node : Node)
  | exit (node : Node)
  | invoke (node : Node)

namespace Call

variable {b : Blacklist} {calls inside : List Call}

def act (b : Blacklist) : Call → WalkM Unit
  | enter node => b.enterBlock node
  | exit node => Blacklist.exitBlock node
  | invoke node => b.check node

def fault (scope : Scope) : Call → Option CheckFault
  | enter node | invoke node => node.checkFault
  | exit _ => if scope = [] then some .emptyScope else none

def scopeAfter (scope : Scope) : Call → Scope
  | enter node => node.frame :: scope
  | exit _ => scope.tail
  | invoke _ => scope

def events (b : Blacklist) (scope : Scope) : Call → List Event
  | enter node =>
    .pushed (scope.length + 1) node.frame :: b.checkEvents (node.frame :: scope) node
  | exit _ => if scope = [] then [] else [.popped scope.length]
  | invoke node => b.checkEvents scope node

/-- One call, with a fault or without one. -/
theorem exec_act (b : Blacklist) (call : Call) (w : Walk) :
    exec (call.act b) w = (outcome (call.fault w.scope),
      w.advance (call.scopeAfter w.scope) (call.events b w.scope)) := by
  cases call with
  | enter node => exact b.exec_enterBlock node w
  | exit node => exact Blacklist.exec_exitBlock node w
  | invoke node => exact b.exec_check node w

/-- The walk after some calls: a fault of one does not keep the next from being made. -/
def afterCalls (b : Blacklist) (w : Walk) (calls : List Call) : Walk :=
  calls.foldl (fun w call => (exec (call.act b) w).2) w

/-- Every enter has its exit, and every exit its enter. -/
inductive Balanced : List Call → Prop
  | nil : Balanced []
  | invoke {node : Node} {rest : List Call} (hr : Balanced rest) : Balanced (.invoke node :: rest)
  | block {node left : Node} {inside rest : List Call} (hi : Balanced inside)
      (hr : Balanced rest) : Balanced (.enter node :: (inside ++ .exit left :: rest))

/-- Some exit among the calls cancels an enter right before them: the calls up to it are
balanced. -/
def Cancels (calls : List Call) : Prop :=
  ∃ inside left rest, calls = inside ++ .exit left :: rest ∧ Balanced inside

/-- The number of exits that cancel no enter among the calls. -/
def surplus : List Call → Nat
  | [] => 0
  | enter _ :: rest => surplus rest - 1
  | exit _ :: rest => surplus rest + 1
  | invoke _ :: rest => surplus rest

theorem Balanced.surplus_append (h : Balanced inside) (rest : List Call) :
    surplus (inside ++ rest) = surplus rest := by
  induction h generalizing rest with
  | nil => rfl
  | invoke _ ih => exact ih rest
  | @block node left inside more _ _ hi hr =>
    calc surplus (.enter node :: (inside ++ .exit left :: more) ++ rest)
        = surplus (inside ++ .exit left :: (more ++ rest)) - 1 := by simp [surplus]
      _ = surplus (.exit left :: (more ++ rest)) - 1 := by rw [hi]
      _ = surplus (more ++ rest) := rfl
      _ = surplus rest := hr rest

theorem cancels_of_surplus_pos (calls : List Call) (h : 0 < surplus calls) : Cancels calls := by
  match calls, h with
  | exit left :: rest, _ => exact ⟨[], left, rest, rfl, .nil⟩
  | invoke node :: rest, h =>
    obtain ⟨inside, left, after, rfl, hi⟩ := cancels_of_surplus_pos rest h
    exact ⟨.invoke node :: inside, left, after, rfl, .invoke hi⟩
  | enter node :: rest, h =>
    -- two exits of the rest are in surplus: one is for this enter, and one is left after it
    have hs : 1 < surplus rest := Nat.lt_of_sub_pos h
    obtain ⟨inside, left, after, rfl, hi⟩ := cancels_of_surplus_pos rest (by omega)
    have ha : 0 < surplus after := by
      rw [hi.surplus_append] at hs
      exact Nat.lt_of_succ_lt_succ hs
    obtain ⟨more, left', after', rfl, hm⟩ := cancels_of_surplus_pos after ha
    exact ⟨.enter node :: (inside ++ .exit left :: more), left', after', by simp, .block hi hm⟩
termination_by calls.length

theorem cancels_iff : Cancels calls ↔ 0 < surplus calls := by
  refine ⟨?_, cancels_of_surplus_pos calls⟩
  rintro ⟨inside, left, rest, rfl, hi⟩
  rw [hi.surplus_append]
  exact Nat.succ_pos _

instance : DecidablePred Cancels := fun _ => decidable_of_iff _ cancels_iff.symm

/-- The nodes that were entered and not left, the latest first. -/
def live : List Call → List Node
  | [] => []
  | enter node :: rest => if Cancels rest then live rest else live rest ++ [node]
  | exit _ :: rest => live rest
  | invoke _ :: rest => live rest

/-- What the calls leave of the scope below them is what their surplus exits do not take. -/
theorem scope_afterCalls (b : Blacklist) (w : Walk) (calls : List Call) :
    (afterCalls b w calls).scope = (live calls).map Node.frame ++ w.scope.drop (surplus calls) := by
  induction calls generalizing w with
  | nil => rfl
  | cons call rest ih =>
    have hs : (afterCalls b w (call :: rest)).scope =
        (live rest).map Node.frame ++ (call.scopeAfter w.scope).drop (surplus rest) := by
      rw [afterCalls, List.foldl_cons, ← afterCalls, ih, exec_act, Walk.scope_advance]
    rw [hs]
    cases call with
    | exit left => rw [scopeAfter, List.drop_tail, live, surplus]
    | invoke node => rfl
    | enter node =>
      rw [scopeAfter, live, surplus]
      by_cases hc : Cancels rest
      · obtain ⟨n, hn⟩ := Nat.exists_eq_succ_of_ne_zero (cancels_iff.mp hc).ne'
        rw [if_pos hc, hn, List.drop_succ_cons, Nat.succ_sub_one]
      · have hz : surplus rest = 0 := Nat.eq_zero_of_not_pos (mt cancels_iff.mpr hc)
        rw [if_neg hc, hz]
        simp

example (b : Blacklist) (u v : Node) :
    (afterCalls b {} [.exit v, .enter u, .enter v, .exit v]).scope = [u.frame] := by
  rw [scope_afterCalls]
  rfl

/-- Under what a node is reported by its name where the nodes around it are the given ones. -/
def nameLabels (b : Blacklist) (around : List Node) (v : Node) : List String :=
  match Reference.target? v with
  | none => []
  | some name =>
    if name ≠ "*" ∧ (b.get? name).any (·.holds v) ∧ ∀ u ∈ around, nameHead name ∉ u.binds then
      [name]
    else []

def labels (b : Blacklist) (around : List Node) (v : Node) : List String :=
  (if b.wildcardCondition.holds v then ["wildcard"] else []) ++ nameLabels b around v

theorem length_nameLabels_le (b : Blacklist) (around : List Node) (v : Node) :
    (nameLabels b around v).length ≤ 1 := by
  unfold nameLabels
  split
  · exact Nat.zero_le 1
  · split <;> simp

theorem length_labels_le (b : Blacklist) (around : List Node) (v : Node) :
    (labels b around v).length ≤ 2 := by
  have hw : (if b.wildcardCondition.holds v then ["wildcard"] else []).length ≤ 1 := by
    split <;> simp
  rw [labels, List.length_append]
  exact Nat.add_le_add hw (length_nameLabels_le b around v)

theorem isLocal_frames (around : List Node) (name : String) :
    Scope.isLocal (around.map Node.frame) name ↔ ∃ u ∈ around, nameHead name ∈ u.binds := by
  simp [Scope.isLocal_iff, mem_names_frame]

/-- What a check reports depends on the nodes around it alone. -/
theorem checkEvents_findings (b : Blacklist) (around : List Node) (v : Node) :
    (b.checkEvents (around.map Node.frame) v).filterMap Event.finding? =
      (labels b around v).map (⟨v, ·⟩) := by
  rw [Blacklist.checkEvents_findings, labels, nameLabels, List.map_append]
  congr 1
  · split <;> rfl
  cases Reference.target? v with
  | none => rfl
  | some name =>
    simp only [isLocal_frames, not_exists, not_and]
    split <;> rfl

theorem findings_act (b : Blacklist) (call : Call) (w : Walk) :
    (exec (call.act b) w).2.findings =
      w.findings ++ (call.events b w.scope).filterMap Event.finding? := by
  rw [exec_act, Walk.findings, Walk.toList_trace_advance, List.filterMap_append, Walk.findings]

/-- Calls of the checker in any order, from an empty scope. The frames are those of the nodes that
were entered and not left. An exit where none is left faults and changes nothing, and any other
takes the latest frame. The check of an invocation leaves the frames, and an enter adds its own,
with a fault or without one. Each reports at most two labels, which depend on the frames alone. -/
theorem keep_live_frames (b : Blacklist) (calls : List Call) :
    (afterCalls b {} calls).scope = (live calls).map Node.frame ∧
    (∀ left, live calls = [] →
      exec ((exit left).act b) (afterCalls b {} calls) =
        (.error .emptyScope, afterCalls b {} calls)) ∧
    (∀ left, live calls ≠ [] →
      (exec ((exit left).act b) (afterCalls b {} calls)).1 = .ok () ∧
      (exec ((exit left).act b) (afterCalls b {} calls)).2.scope =
        (live calls).tail.map Node.frame ∧
      (exec ((exit left).act b) (afterCalls b {} calls)).2.findings =
        (afterCalls b {} calls).findings) ∧
    (∀ node,
      (exec ((invoke node).act b) (afterCalls b {} calls)).1 = outcome node.checkFault ∧
      (exec ((invoke node).act b) (afterCalls b {} calls)).2.scope = (live calls).map Node.frame ∧
      (exec ((invoke node).act b) (afterCalls b {} calls)).2.findings =
        (afterCalls b {} calls).findings ++ (labels b (live calls) node).map (⟨node, ·⟩)) ∧
    (∀ node,
      (exec ((enter node).act b) (afterCalls b {} calls)).1 = outcome node.checkFault ∧
      (exec ((enter node).act b) (afterCalls b {} calls)).2.scope =
        (node :: live calls).map Node.frame ∧
      (exec ((enter node).act b) (afterCalls b {} calls)).2.findings =
        (afterCalls b {} calls).findings ++
          (labels b (node :: live calls) node).map (⟨node, ·⟩)) ∧
    (∀ around node, (labels b around node).length ≤ 2) := by
  have hs : (afterCalls b {} calls).scope = (live calls).map Node.frame := by
    rw [scope_afterCalls, List.drop_nil, List.append_nil]
  generalize afterCalls b {} calls = w at hs
  refine ⟨hs, ?_, ?_, ?_, ?_, length_labels_le b⟩
  · intro left hl
    have hw : w.scope = [] := by rw [hs, hl, List.map_nil]
    have hk : w.advance [] [] = w := by rw [← hw, Walk.advance_nil]
    rw [exec_act]
    simp [fault, scopeAfter, events, hw, hk, outcome]
  · intro left hl
    rw [findings_act, exec_act]
    simp [fault, scopeAfter, events, hs, hl, outcome, Event.finding?]
  · intro node
    rw [findings_act, exec_act, ← checkEvents_findings, ← hs]
    exact ⟨rfl, rfl, rfl⟩
  · intro node
    rw [findings_act, exec_act, ← checkEvents_findings, List.map_cons, ← hs]
    exact ⟨rfl, rfl, rfl⟩

end Call

end TemplateLint
