import TemplateLint.Proofs.BlacklistContents
import TemplateLint.Proofs.Checks

/-!
Trees in which blocks bind more names or invocations pass less, and settings that ask for more. Main
statement: what is reported of them was reported before.
-/

namespace TemplateLint

open Reference Surrounding

variable {α β : Type} {items items' : List Value} {v v' : Node} {env env' : Finset String}
  {extra : HashPair → Prop}

/-- The second list is the first one with related elements, and with some additions that are
allowed. -/
inductive Interspersed (R : α → α → Prop) (extra : α → Prop) : List α → List α → Prop
  | nil : Interspersed R extra [] []
  | keep {x y : α} {xs ys : List α} (h : R x y) (hs : Interspersed R extra xs ys) :
    Interspersed R extra (x :: xs) (y :: ys)
  | add {y : α} {xs ys : List α} (h : extra y) (hs : Interspersed R extra xs ys) :
    Interspersed R extra xs (y :: ys)

namespace Interspersed

variable {R : α → α → Prop} {extra : α → Prop} {xs ys zs ws : List α}

theorem of_forall₂ (h : List.Forall₂ R xs ys) : Interspersed R extra xs ys := by
  induction h with
  | nil => exact .nil
  | cons h _ ih => exact .keep h ih

theorem append (h : Interspersed R extra xs ys) (h' : Interspersed R extra zs ws) :
    Interspersed R extra (xs ++ zs) (ys ++ ws) := by
  induction h with
  | nil => exact h'
  | keep h _ ih => exact .keep h ih
  | add h _ ih => exact .add h ih

end Interspersed

namespace Node

/-- The first tree is the second one where blocks bind more names, and without some of the pairs of
its invocations, all of which are allowed. -/
inductive Milder (extra : HashPair → Prop) : Node → Node → Prop
  | refl (v : Node) : Milder extra v v
  | template {body' body : List Node} {names : List String} {loc : Option Location}
      (hbody : List.Forall₂ (Milder extra) body' body) :
      Milder extra (.template body' names loc) (.template body names loc)
  | block {body' body : List Node} {names' names : List String} {loc : Option Location}
      (hbody : List.Forall₂ (Milder extra) body' body) (hnames : names ⊆ names') :
      Milder extra (.block ⟨body', names', loc⟩) (.block ⟨body, names, loc⟩)
  | blockStatement {p : PathExpression} {params' params : List Node} {h' h : Hash}
      {program' program : Block} {inverse' inverse : Option Block} {loc : Option Location}
      (hparams : List.Forall₂ (Milder extra) params' params)
      (hhash : Milder extra (.hash h') (.hash h))
      (hprogram : Milder extra (.block program') (.block program))
      (hinverse : Option.Rel (fun b' b => Milder extra (.block b') (.block b)) inverse' inverse) :
      Milder extra (.blockStatement p params' h' program' inverse' loc)
        (.blockStatement p params h program inverse loc)
  | mustacheStatement {callee' callee : Node} {params' params : List Node} {h' h : Hash}
      {trusting : Bool} {loc : Option Location} (hcallee : Milder extra callee' callee)
      (hparams : List.Forall₂ (Milder extra) params' params)
      (hhash : Milder extra (.hash h') (.hash h)) :
      Milder extra (.mustacheStatement callee' params' h' trusting loc)
        (.mustacheStatement callee params h trusting loc)
  | subExpression {p : PathExpression} {params' params : List Node} {h' h : Hash}
      {loc : Option Location} (hparams : List.Forall₂ (Milder extra) params' params)
      (hhash : Milder extra (.hash h') (.hash h)) :
      Milder extra (.subExpression p params' h' loc) (.subExpression p params h loc)
  | elementModifier {p : PathExpression} {params' params : List Node} {h' h : Hash}
      {loc : Option Location} (hparams : List.Forall₂ (Milder extra) params' params)
      (hhash : Milder extra (.hash h') (.hash h)) :
      Milder extra (.elementModifier p params' h' loc) (.elementModifier p params h loc)
  | hash {pairs' pairs : List HashPair} {loc : Option Location}
      (hpairs : Interspersed (fun p' p => Milder extra (.hashPair p') (.hashPair p)) extra
        pairs' pairs) :
      Milder extra (.hash ⟨pairs', loc⟩) (.hash ⟨pairs, loc⟩)
  | hashPair {key : String} {value' value : Node} {loc : Option Location}
      (hvalue : Milder extra value' value) :
      Milder extra (.hashPair ⟨key, value', loc⟩) (.hashPair ⟨key, value, loc⟩)
  | element {tag : Value} {attributes' attributes modifiers' modifiers : List Node}
      {children' children : List Node} {names : List String} {selfClosing : Bool}
      {loc : Option Location}
      (hattributes : List.Forall₂ (Milder extra) attributes' attributes)
      (hmodifiers : List.Forall₂ (Milder extra) modifiers' modifiers)
      (hchildren : List.Forall₂ (Milder extra) children' children) :
      Milder extra (.element tag attributes' modifiers' children' names selfClosing loc)
        (.element tag attributes modifiers children names selfClosing loc)
  | attr {name : Value} {value' value : Node} {loc : Option Location}
      (hvalue : Milder extra value' value) :
      Milder extra (.attr name value' loc) (.attr name value loc)
  | concat {parts' parts : List Node} {loc : Option Location}
      (hparts : List.Forall₂ (Milder extra) parts' parts) :
      Milder extra (.concat parts' loc) (.concat parts loc)

/-- The literals that can be written as arguments. -/
def isLiteral (v : Node) : Bool :=
  match v.kind with
  | .string | .number | .boolean | .null | .undefined => true
  | _ => false

namespace Milder

theorem kind_eq (h : Milder extra v' v) : v'.kind = v.kind := by
  cases h <;> rfl

theorem loc_eq (h : Milder extra v' v) : v'.loc = v.loc := by
  cases h <;> rfl

theorem written?_eq (h : Milder extra v' v) : v'.written? = v.written? := by
  cases h <;> rfl

theorem forall₂_refl (vs : List Node) : List.Forall₂ (Milder extra) vs vs :=
  List.forall₂_same.mpr fun v _ => .refl v

theorem params (h : Milder extra v' v) : List.Forall₂ (Milder extra) v'.params v.params := by
  cases h with
  | refl => exact forall₂_refl _
  | blockStatement hparams => exact hparams
  | mustacheStatement _ hparams => exact hparams
  | subExpression hparams => exact hparams
  | elementModifier hparams => exact hparams
  | _ => exact .nil

theorem invokedName?_eq (h : Milder extra v' v) : v'.invokedName? = v.invokedName? := by
  cases h with
  | mustacheStatement hcallee =>
    simp only [invokedName?, callee?, Option.bind_eq_bind, Option.bind_some, hcallee.written?_eq]
  | _ => rfl

theorem componentTarget?_eq (h : Milder extra v' v) :
    v'.componentTarget? = v.componentTarget? := by
  have hparams := h.params
  unfold componentTarget?
  rw [h.invokedName?_eq]
  generalize v'.params = ps' at hparams ⊢
  generalize v.params = ps at hparams ⊢
  cases hparams with
  | nil => rfl
  | @cons first _ _ _ hfirst _ =>
    cases hfirst with
    | refl => cases first <;> rfl
    | _ => rfl

theorem isChecked_eq (h : Milder extra v' v) : v'.isChecked = v.isChecked := by
  rw [isChecked, isChecked, h.kind_eq]

theorem forall₂_inverse {inverse' inverse : Option Block}
    (h : Option.Rel (fun b' b => Milder extra (.block b') (.block b)) inverse' inverse) :
    List.Forall₂ (Milder extra) (inverse'.toList.map .block) (inverse.toList.map .block) := by
  cases h with
  | none => exact .nil
  | some h => exact .cons h .nil

theorem interspersed_pairs {pairs' pairs : List HashPair}
    (h : Interspersed (fun p' p => Milder extra (.hashPair p') (.hashPair p)) extra pairs' pairs) :
    Interspersed (Milder extra) (fun w => ∃ p, extra p ∧ w = .hashPair p) (pairs'.map .hashPair)
      (pairs.map .hashPair) := by
  induction h with
  | nil => exact .nil
  | keep h _ ih => exact .keep h ih
  | @add p _ _ h _ ih => exact .add ⟨p, h, rfl⟩ ih

/-- The children of the second node are those of the first one, and some allowed pairs. -/
theorem interspersed_children (h : Milder extra v' v) :
    Interspersed (Milder extra) (fun w => ∃ p, extra p ∧ w = .hashPair p) v'.children
      v.children := by
  cases h with
  | refl => exact .of_forall₂ (forall₂_refl _)
  | template hbody => exact .of_forall₂ hbody
  | block hbody _ => exact .of_forall₂ hbody
  | blockStatement hparams hhash hprogram hinverse =>
    refine .keep (.refl _) (.append (.of_forall₂ hparams) ?_)
    exact .keep hhash (.keep hprogram (.of_forall₂ (forall₂_inverse hinverse)))
  | mustacheStatement hcallee hparams hhash =>
    exact .keep hcallee (.append (.of_forall₂ hparams) (.keep hhash .nil))
  | subExpression hparams hhash =>
    exact .keep (.refl _) (.append (.of_forall₂ hparams) (.keep hhash .nil))
  | elementModifier hparams hhash =>
    exact .keep (.refl _) (.append (.of_forall₂ hparams) (.keep hhash .nil))
  | hash hpairs => exact interspersed_pairs hpairs
  | hashPair hvalue => exact .keep hvalue .nil
  | element hattributes hmodifiers hchildren =>
    exact .append (.append (.of_forall₂ hattributes) (.of_forall₂ hmodifiers))
      (.of_forall₂ hchildren)
  | attr hvalue => exact .keep hvalue .nil
  | concat hparts => exact .of_forall₂ hparts

theorem blockParams_subset {b' b : Block} (h : Milder extra (.block b') (.block b)) :
    b.blockParams ⊆ b'.blockParams := by
  cases h with
  | refl => exact List.Subset.refl _
  | block _ hnames => exact hnames

/-- What is bound below the second node is bound below the first one as well. -/
theorem inner_subset (h : Milder extra v' v) (henv : env ⊆ env') :
    Reference.inner env v ⊆ Reference.inner env' v' := by
  unfold Reference.inner
  cases h with
  | refl =>
    split
    · exact Finset.union_subset_union_left henv
    · exact henv
  | blockStatement _ _ hprogram _ =>
    have hnames := hprogram.blockParams_subset
    refine Finset.union_subset_union henv fun name hn => ?_
    exact List.mem_toFinset.mpr (hnames (List.mem_toFinset.mp hn))
  | _ => exact henv

theorem key_eq {p' p : HashPair} (h : Milder extra (.hashPair p') (.hashPair p)) :
    p'.key = p.key := by
  cases h <;> rfl

theorem keys_of_interspersed {pairs' pairs : List HashPair}
    (h : Interspersed (fun p' p => Milder extra (.hashPair p') (.hashPair p)) extra pairs' pairs) :
    pairs'.map (·.key) ⊆ pairs.map (·.key) ∧
      ∀ a ∈ pairs.map (·.key), a ∈ pairs'.map (·.key) ∨ ∃ p, extra p ∧ p.key = a := by
  induction h with
  | nil => exact ⟨List.Subset.refl _, nofun⟩
  | keep h _ ih =>
    rw [List.map_cons, List.map_cons, h.key_eq]
    refine ⟨List.cons_subset_cons _ ih.1, ?_⟩
    intro a ha
    rcases List.mem_cons.mp ha with rfl | ha
    · exact .inl List.mem_cons_self
    · exact (ih.2 a ha).imp_left (List.mem_cons_of_mem _)
  | @add p _ _ h _ ih =>
    rw [List.map_cons]
    refine ⟨List.subset_cons_of_subset _ ih.1, ?_⟩
    intro a ha
    rcases List.mem_cons.mp ha with rfl | ha
    · exact .inr ⟨p, h, rfl⟩
    · exact ih.2 a ha

/-- The named arguments of the second node are those of the first one, and some of allowed pairs. -/
theorem hashKeys (h : Milder extra v' v) : v'.hashKeys ⊆ v.hashKeys ∧
    ∀ a ∈ v.hashKeys, a ∈ v'.hashKeys ∨ ∃ p, extra p ∧ p.key = a := by
  have same (keys : List String) : keys ⊆ keys ∧
      ∀ a ∈ keys, a ∈ keys ∨ ∃ p, extra p ∧ p.key = a :=
    ⟨List.Subset.refl _, fun _ ha => .inl ha⟩
  have keys {h' h : Hash} (hhash : Milder extra (.hash h') (.hash h)) : h'.keys ⊆ h.keys ∧
      ∀ a ∈ h.keys, a ∈ h'.keys ∨ ∃ p, extra p ∧ p.key = a := by
    cases hhash with
    | refl => exact same _
    | hash hpairs => exact keys_of_interspersed hpairs
  cases h with
  | refl => exact same _
  | blockStatement _ hhash => exact keys hhash
  | mustacheStatement _ _ hhash => exact keys hhash
  | subExpression _ hhash => exact keys hhash
  | elementModifier _ hhash => exact keys hhash
  | _ => exact same []

end Milder

end Node

/-- The first check has more names bound, for what may be the same invocation with some allowed
pairs taken away. -/
structure Check.Milder (extra : HashPair → Prop) (c' c : Check) : Prop where
  env : c.env ⊆ c'.env
  loc : c'.node.loc = c.node.loc
  target : c'.node.componentTarget? = c.node.componentTarget?
  hashKeys : c'.node.hashKeys ⊆ c.node.hashKeys
  added : ∀ a ∈ c.node.hashKeys, a ∈ c'.node.hashKeys ∨ ∃ p, extra p ∧ p.key = a

theorem Interspersed.forall₂_flatMap {R : α → α → Prop} {Q : β → β → Prop} {extra : α → Prop}
    {xs ys : List α} {f g : α → List β} (h : Interspersed R extra xs ys)
    (hR : ∀ x, ∀ y ∈ ys, R x y → List.Forall₂ Q (f x) (g y)) (hextra : ∀ y, extra y → g y = []) :
    List.Forall₂ Q (xs.flatMap f) (ys.flatMap g) := by
  induction h with
  | nil => exact .nil
  | keep h _ ih =>
    rw [List.flatMap_cons, List.flatMap_cons]
    refine List.rel_append (hR _ _ List.mem_cons_self h) (ih ?_)
    exact fun x y hy => hR x y (List.mem_cons_of_mem _ hy)
  | add h _ ih =>
    rw [List.flatMap_cons, hextra _ h, List.nil_append]
    exact ih fun x y hy => hR x y (List.mem_cons_of_mem _ hy)

namespace Node

theorem checks_of_isLiteral (h : v.isLiteral) (env : Finset String) : v.checks env = [] := by
  rw [checks_eq]
  cases v <;> first | rfl | cases h

theorem checks_hashPair {p : HashPair} (h : p.value.isLiteral) (env : Finset String) :
    (Node.hashPair p).checks env = [] := by
  rw [checks_eq, Node.children, List.flatMap_singleton, checks_of_isLiteral h]
  rfl

/-- A walk of the milder tree makes the same checks, each of them milder. -/
theorem Milder.checks (hextra : ∀ p, extra p → p.value.isLiteral) (h : Milder extra v' v)
    (henv : env ⊆ env') : List.Forall₂ (Check.Milder extra) (v'.checks env') (v.checks env) := by
  induction v using childrenInduction generalizing v' env env' with
  | step v ih =>
    have hinner := h.inner_subset henv
    rw [checks_eq, checks_eq, h.isChecked_eq]
    refine List.rel_append ?_ (h.interspersed_children.forall₂_flatMap ?_ ?_)
    · split
      · exact .cons ⟨hinner, h.loc_eq, h.componentTarget?_eq, h.hashKeys.1, h.hashKeys.2⟩ .nil
      · exact .nil
    · exact fun x y hy hxy => ih y hy hxy hinner
    · rintro _ ⟨p, hp, rfl⟩
      exact checks_hashPair (hextra p hp) _

end Node

end TemplateLint
