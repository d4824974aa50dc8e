import TemplateLint.Proofs.LintRun

/-!
Two runs side by side, each step of the one with a step of the other. Main statement: linting a tree
does the same whatever its source is, up to the snippets in its violations.
-/

namespace TemplateLint

open Log (Record)

variable {σ ε α β γ α' β' : Type}

/-- From related states two runs come to related results, and to related states again. -/
def Coupled (S : σ → σ → Prop) (R : α → β → Prop) (x : StateM σ α) (y : StateM σ β) : Prop :=
  ∀ s t, S s t → R (x s).1 (y t).1 ∧ S (x s).2 (y t).2

namespace Coupled

variable {S : σ → σ → Prop} {R Q : α → β → Prop} {x : StateM σ α} {y : StateM σ β}

theorem pure {a : α} {b : β} (h : R a b) : Coupled S R (Pure.pure a) (Pure.pure b) :=
  fun _ _ hs => ⟨h, hs⟩

theorem bind {P : α' → β' → Prop} {f : α → StateM σ α'} {g : β → StateM σ β'}
    (h : Coupled S R x y) (h' : ∀ a b, R a b → Coupled S P (f a) (g b)) :
    Coupled S P (x >>= f) (y >>= g) := by
  intro s t hs
  obtain ⟨hr, hs'⟩ := h s t hs
  exact h' _ _ hr _ _ hs'

/-- A step that both runs make and that gives them the same. -/
theorem same_bind {P : α' → β' → Prop} {x y : StateM σ α} {f : α → StateM σ α'}
    {g : α → StateM σ β'} (h : Coupled S Eq x y) (h' : ∀ a, Coupled S P (f a) (g a)) :
    Coupled S P (x >>= f) (y >>= g) :=
  h.bind fun a _ hab => hab ▸ h' a

theorem forM {f g : γ → StateM σ PUnit} (h : ∀ c, Coupled S Eq (f c) (g c)) (xs : List γ) :
    Coupled S Eq (xs.forM f) (xs.forM g) := by
  induction xs with
  | nil => exact .pure rfl
  | cons c rest ih => exact (h c).same_bind fun _ => ih

end Coupled

/-- Two outcomes are the same fault, or else related results. -/
inductive Alike (R : α → β → Prop) : Except ε α → Except ε β → Prop
  | error (e : ε) : Alike R (.error e) (.error e)
  | ok {a : α} {b : β} (h : R a b) : Alike R (.ok a) (.ok b)

namespace Alike

theorem refl (a : Except ε α) : Alike Eq a a := by
  cases a with
  | error e => exact .error e
  | ok a => exact .ok rfl

theorem map_eq {f : α → γ} {g : β → γ} {a : Except ε α} {b : Except ε β}
    (h : Alike (fun a b => f a = g b) a b) : a.map f = b.map g := by
  cases h with
  | error e => rfl
  | ok h => exact congrArg Except.ok h

end Alike

/-- Steps that may stop a run stop both, and with the same fault, or else neither. -/
def CoupledSteps (S : σ → σ → Prop) (R : α → β → Prop) (x : ExceptT ε (StateM σ) α)
    (y : ExceptT ε (StateM σ) β) : Prop :=
  Coupled S (Alike R) x.run y.run

namespace CoupledSteps

variable {S : σ → σ → Prop} {R Q : α → β → Prop} {x : ExceptT ε (StateM σ) α}
  {y : ExceptT ε (StateM σ) β}

theorem pure {a : α} {b : β} (h : R a b) :
    CoupledSteps S R (Pure.pure a : ExceptT ε (StateM σ) α) (Pure.pure b) :=
  Coupled.pure (.ok h)

theorem refl (x : ExceptT ε (StateM σ) α) : CoupledSteps Eq Eq x x := by
  rintro s _ rfl
  exact ⟨.refl _, rfl⟩

theorem throw (e : ε) : CoupledSteps S R (MonadExcept.throw e : ExceptT ε (StateM σ) α)
    (MonadExcept.throw e : ExceptT ε (StateM σ) β) :=
  Coupled.pure (.error e)

theorem lift {x : StateM σ α} {y : StateM σ β} (h : Coupled S R x y) :
    CoupledSteps S R (ExceptT.lift x : ExceptT ε (StateM σ) α) (ExceptT.lift y) :=
  fun s t hs => ⟨.ok (h s t hs).1, (h s t hs).2⟩

theorem bind {P : α' → β' → Prop} {f : α → ExceptT ε (StateM σ) α'}
    {g : β → ExceptT ε (StateM σ) β'} (h : CoupledSteps S R x y)
    (h' : ∀ a b, R a b → CoupledSteps S P (f a) (g b)) : CoupledSteps S P (x >>= f) (y >>= g) := by
  have hxf : (x >>= f).run = x.run >>= ExceptT.bindCont f := rfl
  have hyg : (y >>= g).run = y.run >>= ExceptT.bindCont g := rfl
  rw [CoupledSteps, hxf, hyg]
  refine Coupled.bind h fun a b hab => ?_
  cases hab with
  | error e => exact .pure (.error e)
  | ok hab => exact h' _ _ hab

theorem same_bind {P : α' → β' → Prop} {x y : ExceptT ε (StateM σ) α}
    {f : α → ExceptT ε (StateM σ) α'} {g : α → ExceptT ε (StateM σ) β'}
    (h : CoupledSteps S Eq x y) (h' : ∀ a, CoupledSteps S P (f a) (g a)) :
    CoupledSteps S P (x >>= f) (y >>= g) :=
  h.bind fun a _ hab => hab ▸ h' a

/-- What follows a fault does not matter. -/
theorem stop {P : α' → β' → Prop} (e : ε) {f : α → ExceptT ε (StateM σ) α'}
    {g : β → ExceptT ε (StateM σ) β'} :
    CoupledSteps S P (MonadExcept.throw e >>= f) (MonadExcept.throw e >>= g) :=
  Coupled.pure (.error e)

theorem mapM {f : γ → ExceptT ε (StateM σ) α} {g : α' → ExceptT ε (StateM σ) β}
    {P : γ → α' → Prop} {xs : List γ} {ys : List α'}
    (h : ∀ c d, P c d → CoupledSteps S R (f c) (g d)) (hxs : List.Forall₂ P xs ys) :
    CoupledSteps S (List.Forall₂ R) (xs.mapM f) (ys.mapM g) := by
  induction hxs with
  | nil => exact .pure .nil
  | cons hcd _ ih =>
    rw [List.mapM_cons, List.mapM_cons]
    refine (h _ _ hcd).bind fun a b hab => ?_
    exact ih.bind fun as bs hs => .pure (.cons hab hs)

theorem mapM_same {f : γ → ExceptT ε (StateM σ) α} {xs : List γ}
    (h : ∀ c ∈ xs, CoupledSteps S Eq (f c) (f c)) :
    CoupledSteps S Eq (xs.mapM f) (xs.mapM f) := by
  induction xs with
  | nil => exact .pure rfl
  | cons c rest ih =>
    obtain ⟨hc, hr⟩ := List.forall_mem_cons.mp h
    rw [List.mapM_cons]
    exact hc.same_bind fun _ => (ih hr).same_bind fun _ => .pure rfl

end CoupledSteps

def Violation.withoutSource (v : Violation) : Violation := { v with source := "" }

/-- The two differ in no more than their snippets. -/
def SameReports (vs ws : List Violation) : Prop :=
  vs.map Violation.withoutSource = ws.map Violation.withoutSource

theorem SameReports.flatten {vss wss : List (List Violation)}
    (h : List.Forall₂ SameReports vss wss) : SameReports vss.flatten wss.flatten := by
  induction h with
  | nil => rfl
  | cons hv _ ih =>
    unfold SameReports at hv ih ⊢
    rw [List.flatten_cons, List.flatten_cons, List.map_append, List.map_append, hv, ih]

theorem SameReports.length_eq {vs ws : List Violation} (h : SameReports vs ws) :
    vs.length = ws.length := by
  have hlength := congrArg List.length h
  rwa [List.length_map, List.length_map] at hlength

/-- The order of violations does not look at snippets. -/
theorem Violation.map_withoutSource_sort (vs : List Violation) :
    (sort vs).map withoutSource = sort (vs.map withoutSource) :=
  List.map_mergeSort fun _ _ _ _ => rfl

theorem SameReports.sort {vs ws : List Violation} (h : SameReports vs ws) :
    SameReports (Violation.sort vs) (Violation.sort ws) := by
  unfold SameReports at h ⊢
  rw [Violation.map_withoutSource_sort, Violation.map_withoutSource_sort, h]

theorem Rule.sameReports_violations {r r' : Rule} (w : Walk) :
    SameReports (r.violations w) (r'.violations w) := by
  unfold SameReports violations
  rw [List.map_map, List.map_map]
  rfl

def Rule.SameBlacklist (r r' : Rule) : Prop := r.blacklist = r'.blacklist

namespace Linter

/-- Only the blacklist of a rule matters to what it finds. -/
theorem coupled_runRule (tree : Node) {r r' : Rule} (h : r.SameBlacklist r') :
    CoupledSteps Eq SameReports (runRule tree r) (runRule tree r') := by
  have hw : r.walk tree = r'.walk tree := by
    unfold Rule.SameBlacklist at h
    rw [Rule.walk, Rule.walk, h]
  unfold runRule
  rw [hw]
  obtain ⟨outcome, walk⟩ := r'.walk tree
  refine (CoupledSteps.refl (logAll walk.records)).same_bind fun _ => ?_
  cases outcome with
  | error e => exact .throw _
  | ok u => exact .pure (Rule.sameReports_violations walk)

theorem coupled_setUp (s t name : String) (config : Value) :
    CoupledSteps Eq Rule.SameBlacklist (setUp s name config) (setUp t name config) := by
  unfold setUp Rule.ofSetting
  by_cases hn : ruleNames.contains name = true
  · simp only [hn, if_true]
    cases Setting.compile Rule.name config with
    | error e => exact .throw _
    | ok blacklist =>
      exact (CoupledSteps.refl (logAll [Rule.settingRecord blacklist])).same_bind fun _ => .pure rfl
  · simp only [hn]
    exact .stop _

theorem forall₂_filter_enabled {rs rs' : List Rule} (h : List.Forall₂ Rule.SameBlacklist rs rs') :
    List.Forall₂ Rule.SameBlacklist (rs.filter Rule.enabled) (rs'.filter Rule.enabled) := by
  induction h with
  | nil => exact .nil
  | @cons r r' _ _ hr _ ih =>
    have he : r.enabled = r'.enabled := congrArg Option.isSome hr
    rw [List.filter_cons, List.filter_cons, he]
    split
    · exact .cons hr ih
    · exact ih

theorem coupled_setUpAll (rules : Fields) (s t : String) :
    CoupledSteps Eq (List.Forall₂ Rule.SameBlacklist) (setUpAll rules s) (setUpAll rules t) := by
  have hall : CoupledSteps Eq (List.Forall₂ Rule.SameBlacklist)
      (rules.mapM fun setting => setUp s setting.1 setting.2)
      (rules.mapM fun setting => setUp t setting.1 setting.2) := by
    refine .mapM ?_ (List.forall₂_same.mpr fun _ _ => rfl)
    rintro setting _ rfl
    exact coupled_setUp s t setting.1 setting.2
  exact hall.bind fun _ _ hr => .pure (forall₂_filter_enabled hr)

/-- Linting logs the same whatever the source is, and finds the same. -/
theorem coupled_lint (tree : Node) (rules : Fields) (s t : String) :
    CoupledSteps Eq SameReports (lint tree rules s) (lint tree rules t) := by
  unfold lint
  refine (coupled_setUpAll rules s t).bind fun ready ready' hr => ?_
  have hfound : CoupledSteps Eq (List.Forall₂ SameReports) (ready.mapM (runRule tree))
      (ready'.mapM (runRule tree)) :=
    .mapM (fun _ _ => coupled_runRule tree) hr
  exact hfound.bind fun _ _ hf => .pure (SameReports.flatten hf).sort

theorem alike_result (tree : Node) (rules : Fields) (s t : String) :
    Alike SameReports (result tree rules s) (result tree rules t) :=
  (coupled_lint tree rules s t #[] #[] rfl).1

end Linter

end TemplateLint
