import TemplateLint.Proofs.Passages
import TemplateLint.Proofs.ScopeDiscipline

/-!
Walks with callbacks for some kinds of nodes. Main statement: such a walk makes its callbacks at the
passages of the full walk for which one is registered, in their order.
-/

namespace TemplateLint

open Node

variable {m : Type → Type} {α : Type}

theorem Named.get?_map {β : Type} (f : α → β) (entries : Named α) (name : String) :
    Named.get? (entries.map fun entry => (entry.1, f entry.2)) name = (entries.get? name).map f := by
  induction entries with
  | nil => rfl
  | cons entry rest ih =>
    simp only [get?] at ih ⊢
    rw [List.map_cons, List.lookup_cons, List.lookup_cons]
    split
    · rfl
    · exact ih

theorem Kind.name_injective : Function.Injective Kind.name := by
  intro k l h
  have hk := congrArg ofName? h
  rwa [ofName?_name, ofName?_name, Option.some.injEq] at hk

theorem forM_filterMap [Monad m] [LawfulMonad m] (xs : List α) (f : α → Option (m Unit)) :
    (xs.filterMap f).forM id = xs.forM fun x => (f x).getD (pure ()) := by
  induction xs with
  | nil => rfl
  | cons x rest ih =>
    simp only [List.forM_eq_forM, List.forM_cons] at ih ⊢
    cases hx : f x with
    | none => simp [hx, ih]
    | some act => simp [hx, ih]

def Registration.callback? (registration : Registration m) (phase : Phase) :
    Option (Node → m Unit) :=
  match registration, phase with
  | .call act, .enter => some act
  | .call _, .exit => none
  | .handler h, .enter => h.enter
  | .handler h, .exit => h.exit

/-- The registration with callbacks that write their passages down. -/
def Registration.recording : Registration m → Registration (StateM (List Passage))
  | call _ => .call fun node => modify (· ++ [⟨.enter, node⟩])
  | handler h => .handler {
      enter := h.enter.map fun _ node => modify (· ++ [⟨.enter, node⟩])
      exit := h.exit.map fun _ node => modify (· ++ [⟨.exit, node⟩]) }

namespace Registry

/-- The callback that is registered for a passage. An act alone is registered for the enter. -/
def callback? (r : Registry m) (p : Passage) : Option (m Unit) :=
  ((r.get? p.node.kind.name).bind (·.callback? p.phase)).map fun callback => callback p.node

def recording (r : Registry m) : Registry (StateM (List Passage)) :=
  r.map fun entry => (entry.1, entry.2.recording)

/-- The passages at which a walk makes a callback, as the callbacks write them down. -/
def calls (r : Registry m) (tree : Node) : List Passage :=
  ((tree.traverse r.recording.visitor).run []).2

theorem act_visitor [Monad m] (r : Registry m) (p : Passage) :
    p.act r.visitor = (r.callback? p).getD (pure ()) := by
  obtain ⟨phase, node⟩ := p
  unfold callback? Passage.act visitor
  simp only
  cases r.get? node.kind.name with
  | none => cases phase <;> rfl
  | some registration =>
    cases registration with
    | call act => cases phase <;> rfl
    | handler h =>
      obtain ⟨enter, exit⟩ := h
      cases phase with
      | enter => cases enter <;> rfl
      | exit => cases exit <;> rfl

/-- A walk makes the callbacks that are registered for the passages of the tree. -/
theorem traverse_eq_forM_callbacks [Monad m] [LawfulMonad m] (r : Registry m) (tree : Node) :
    tree.traverse r.visitor = (tree.passages.filterMap r.callback?).forM id := by
  rw [traverse_eq_forM_passages, forM_filterMap]
  congr 1
  funext p
  exact r.act_visitor p

theorem callback?_recording (r : Registry m) (p : Passage) :
    r.recording.callback? p = (r.callback? p).map fun _ => modify (· ++ [p]) := by
  obtain ⟨phase, node⟩ := p
  unfold callback? recording
  rw [Named.get?_map]
  cases r.get? node.kind.name with
  | none => rfl
  | some registration =>
    cases registration with
    | call act => cases phase <;> rfl
    | handler h =>
      obtain ⟨enter, exit⟩ := h
      cases phase with
      | enter => cases enter <;> rfl
      | exit => cases exit <;> rfl

theorem run_forM_recording (r : Registry m) (ps written : List Passage) :
    ((ps.filterMap r.recording.callback?).forM id).run written =
      ((), written ++ ps.filter fun p => (r.callback? p).isSome) := by
  induction ps generalizing written with
  | nil =>
    rw [List.filterMap_nil, List.filter_nil, List.append_nil]
    rfl
  | cons p rest ih =>
    cases hp : r.callback? p with
    | none =>
      have hr : r.recording.callback? p = none := by rw [callback?_recording, hp, Option.map_none]
      rw [List.filterMap_cons_none hr, ih, List.filter_cons_of_neg (by simp [hp])]
    | some act =>
      have hr : r.recording.callback? p = some (modify (· ++ [p])) := by
        rw [callback?_recording, hp, Option.map_some]
      rw [List.filterMap_cons_some hr, List.filter_cons_of_pos (by simp [hp]), List.append_cons]
      exact ih (written ++ [p])

theorem calls_eq_filter (r : Registry m) (tree : Node) :
    r.calls tree = tree.passages.filter fun p => (r.callback? p).isSome := by
  rw [calls, traverse_eq_forM_callbacks, run_forM_recording, List.nil_append]

/-- The registries have the same for every kind but one. -/
def DifferAt (kind : Kind) (r s : Registry m) : Prop :=
  ∀ other, other ≠ kind → r.get? other.name = s.get? other.name

theorem DifferAt.callback?_eq {kind : Kind} {r s : Registry m} (h : DifferAt kind r s) {p : Passage}
    (hp : p.node.kind ≠ kind) : r.callback? p = s.callback? p := by
  rw [callback?, callback?, h _ hp]

theorem DifferAt.filter_calls {kind : Kind} {r s : Registry m} (h : DifferAt kind r s)
    (tree : Node) :
    (r.calls tree).filter (·.node.kind ≠ kind) = (s.calls tree).filter (·.node.kind ≠ kind) := by
  rw [calls_eq_filter, calls_eq_filter, List.filter_filter, List.filter_filter]
  refine List.filter_congr fun p _ => ?_
  by_cases hp : p.node.kind = kind
  · simp [hp]
  · rw [h.callback?_eq hp]

theorem differAt_set (r : Registry m) (kind : Kind) (registration : Registration m) :
    DifferAt kind (r.set kind.name registration) r := by
  intro other ho
  rw [Named.get?_set, if_neg fun h => ho (Kind.name_injective h)]

end Registry

/-- A walk with a visitor that registers something for some kinds of nodes. What its callbacks write
down is the full walk without the passages for which none is registered. It comes to these
callbacks, one after the other. What is registered for one kind does not matter to the callbacks for
the others, nor to their order. -/
theorem partial_walk_filters_full_walk [Monad m] [LawfulMonad m] (r : Registry m) (tree : Node) :
    r.calls tree = tree.passages.filter (fun p => (r.callback? p).isSome) ∧
    tree.traverse r.visitor = (tree.passages.filterMap r.callback?).forM id ∧
    ∀ (kind : Kind) (s : Registry m), s.DifferAt kind r →
      (s.calls tree).filter (·.node.kind ≠ kind) = (r.calls tree).filter (·.node.kind ≠ kind) :=
  ⟨r.calls_eq_filter tree, r.traverse_eq_forM_callbacks tree, fun _ _ h => h.filter_calls tree⟩

/-- What a checking walk registers. -/
def Blacklist.registry (b : Blacklist) : Registry WalkM :=
  [(Kind.blockStatement.name, .handler { enter := some b.enterBlock, exit := some exitBlock }),
    (Kind.mustacheStatement.name, .call b.check), (Kind.subExpression.name, .call b.check)]

theorem Blacklist.visitor_registry (b : Blacklist) : b.registry.visitor = b.visitor := by
  funext kind
  cases kind <;>
    simp [registry, Registry.visitor, Registration.toHandler, visitor, Named.get?, List.lookup_cons,
      Kind.name]

theorem passages_eachItem : eachItem.passages =
    [⟨.enter, eachItem⟩, ⟨.enter, .path ⟨.text "each", none⟩⟩, ⟨.exit, .path ⟨.text "each", none⟩⟩,
      ⟨.enter, .hash .empty⟩, ⟨.exit, .hash .empty⟩, ⟨.enter, .block itemBlock⟩,
      ⟨.enter, itemMustache⟩, ⟨.enter, .path ⟨.text "item", none⟩⟩,
      ⟨.exit, .path ⟨.text "item", none⟩⟩, ⟨.enter, .hash .empty⟩, ⟨.exit, .hash .empty⟩,
      ⟨.exit, itemMustache⟩, ⟨.exit, .block itemBlock⟩, ⟨.exit, eachItem⟩] := by
  simp [passages_eq, children, eachItem, itemBlock, itemMustache, Hash.empty]

/-- The walk of `eachItem` that checks invocations, and one that leaves mustaches instead. -/
theorem partial_walk_filters_full_walk_eachItem :
    Blacklist.base.registry.calls eachItem =
      [⟨.enter, eachItem⟩, ⟨.enter, itemMustache⟩, ⟨.exit, eachItem⟩] ∧
    eachItem.traverse Blacklist.base.visitor =
      [Blacklist.base.enterBlock eachItem, Blacklist.base.check itemMustache,
        Blacklist.exitBlock eachItem].forM id ∧
    (Registry.calls (Named.set Blacklist.base.registry Kind.mustacheStatement.name
        (.handler { exit := some fun _ => pure () })) eachItem).filter
      (·.node.kind ≠ .mustacheStatement) = [⟨.enter, eachItem⟩, ⟨.exit, eachItem⟩] := by
  obtain ⟨hcalls, hwalk, hother⟩ := partial_walk_filters_full_walk Blacklist.base.registry eachItem
  rw [passages_eachItem] at hcalls hwalk
  refine ⟨hcalls, ?_, ?_⟩
  · rw [← Blacklist.visitor_registry]
    exact hwalk
  · rw [hother _ _ (Registry.differAt_set _ _ _), hcalls]
    rfl

end TemplateLint
