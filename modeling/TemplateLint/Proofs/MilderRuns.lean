import TemplateLint.Proofs.MilderTrees

/-!
What is reported of milder trees under stricter settings. Main statement: it was reported of the
tree under the setting, in the same order.
-/

namespace TemplateLint

open Reference

variable {items items' : List Value} {b : Blacklist} {v v' : Value} {c c' : Check} {name : String}
  {source : String} {tree tree' : Node} {extra : HashPair → Prop}

/-- The second entry is the first one with more named arguments to ask for. A text asks for none, and
neither does a table without a list of them. -/
inductive Value.AsksMore : Value → Value → Prop
  | refl (v : Value) : AsksMore v v
  | attributes {v : Value} {fields : Fields} {names : List String}
      (hname : (Value.table fields).entryName? = v.entryName?)
      (hnames : fields.getD "withAttributes" = .list (names.map .text))
      (hmore : v.entryAttributes ⊆ names) : AsksMore v (.table fields)

namespace Value.AsksMore

theorem entryName?_eq (h : v.AsksMore v') : v'.entryName? = v.entryName? := by
  cases h with
  | refl => rfl
  | attributes hname => exact hname

theorem entryAttributes_subset (h : v.AsksMore v') : v.entryAttributes ⊆ v'.entryAttributes := by
  cases h with
  | refl => exact List.Subset.refl _
  | @attributes fields names _ hnames hmore =>
    have ht : (Value.list (names.map .text)).texts? = some names := Value.texts?_eq_some_iff.mpr rfl
    have ha : (Value.table fields).entryAttributes = names := by
      rw [entryAttributes, field, hnames, ht, Option.getD_some]
    rw [ha]
    exact hmore

theorem exists_decode (h : v.AsksMore v') {e : Entry} (hd : Entry.decode v = .ok e) :
    ∃ e', Entry.decode v' = .ok e' := by
  cases h with
  | refl => exact ⟨e, hd⟩
  | @attributes fields names hname hnames _ =>
    rw [(Entry.decode_eq_ok hd).1] at hname
    cases hn : fields.getD "name" with
    | text name => exact ⟨_, Entry.decode_table hn hnames⟩
    | _ =>
      rw [entryName?, hn] at hname
      cases hname

theorem exists_decode_all {entries : List Entry} (hs : List.Forall₂ Value.AsksMore items items')
    (hd : List.Forall₂ (fun v e => Entry.decode v = .ok e) items entries) :
    ∃ entries', List.Forall₂ (fun v e => Entry.decode v = .ok e) items' entries' := by
  induction hs generalizing entries with
  | nil => exact ⟨[], .nil⟩
  | cons hv _ ih =>
    cases hd with
    | cons hfirst hrest =>
      obtain ⟨e', he⟩ := hv.exists_decode hfirst
      obtain ⟨more, hmore⟩ := ih hrest
      exact ⟨e' :: more, .cons he hmore⟩

/-- Asking for more leaves a setting accepted. -/
theorem exists_compile (hs : List.Forall₂ Value.AsksMore items items')
    (h : Setting.compile Rule.name (.list items) = .ok (some b)) :
    ∃ b', Setting.compile Rule.name (.list items') = .ok (some b') := by
  obtain ⟨entries, hd, -⟩ := Blacklist.entries_of_compile h
  obtain ⟨entries', hd'⟩ := exists_decode_all hs (Entry.mapM_decode_eq_ok_iff.mp hd)
  exact ⟨_, Blacklist.compile_of_entries _ (Entry.mapM_decode_eq_ok_iff.mpr hd')⟩

/-- The last entry of a name is still the last one, and asks for what it did. -/
theorem rel_lastAttributes? (hs : List.Forall₂ Value.AsksMore items items') (name : String) :
    Option.Rel (· ⊆ ·) (lastAttributes? items name) (lastAttributes? items' name) := by
  induction hs with
  | nil => exact .none
  | cons hv _ ih =>
    rw [lastAttributes?_cons, lastAttributes?_cons, hv.entryName?_eq]
    generalize lastAttributes? _ name = last at ih ⊢
    generalize lastAttributes? _ name = last' at ih ⊢
    cases ih with
    | some h => exact .some h
    | none =>
      split
      · exact .some hv.entryAttributes_subset
      · exact .none

/-- An invocation that passes less counts for no more names. -/
theorem counts (hs : List.Forall₂ Value.AsksMore items items') {w w' : Node}
    (hk : w'.hashKeys ⊆ w.hashKeys) (h : Reference.counts items' name w') :
    Reference.counts items name w := by
  have hrel := rel_lastAttributes? hs name
  rw [counts_eq] at h ⊢
  generalize lastAttributes? items name = last at hrel ⊢
  generalize lastAttributes? items' name = last' at hrel h
  cases hrel with
  | none => exact h
  | some hmore =>
    rw [Option.any_some, Node.passesAll_iff] at h ⊢
    exact fun a ha => hk (h a (hmore ha))

theorem forall₂_refl (items : List Value) : List.Forall₂ Value.AsksMore items items :=
  List.forall₂_same.mpr fun v _ => .refl v

end Value.AsksMore

theorem Reference.target?_congr {w w' : Node} (h : w'.componentTarget? = w.componentTarget?) :
    target? w' = target? w := by
  ext name
  rw [target?_eq_some_iff, target?_eq_some_iff, h]

namespace Check.Milder

theorem violation_eq (h : c'.Milder extra c) (label : String) :
    Finding.violation source ⟨c'.node, label⟩ = Finding.violation source ⟨c.node, label⟩ := by
  simp only [Finding.violation, h.loc]

theorem wildcard_sublist (h : c'.Milder extra c) (hs : List.Forall₂ Value.AsksMore items items') :
    (c'.wildcardViolations items' source).Sublist (c.wildcardViolations items source) := by
  unfold wildcardViolations Reference.wildcardFindings
  by_cases hc : Reference.counts items' "*" c'.node
  · rw [if_pos hc, if_pos (Value.AsksMore.counts hs h.hashKeys hc), List.map_singleton,
      List.map_singleton, h.violation_eq]
  · rw [if_neg hc]
    exact List.nil_sublist _

theorem named_sublist (h : c'.Milder extra c) (hs : List.Forall₂ Value.AsksMore items items') :
    (c'.namedViolations items' source).Sublist (c.namedViolations items source) := by
  unfold namedViolations Reference.namedFindings
  rw [target?_congr h.target]
  cases target? c.node with
  | none => exact List.nil_sublist _
  | some name =>
    simp only
    by_cases hc : name ≠ "*" ∧ Reference.counts items' name c'.node ∧ nameHead name ∉ c'.env
    · obtain ⟨hn, hcount, henv⟩ := hc
      have hfound : name ≠ "*" ∧ Reference.counts items name c.node ∧ nameHead name ∉ c.env :=
        ⟨hn, Value.AsksMore.counts hs h.hashKeys hcount, fun hm => henv (h.env hm)⟩
      rw [if_pos ⟨hn, hcount, henv⟩, if_pos hfound, List.map_singleton, List.map_singleton,
        h.violation_eq]
    · rw [if_neg hc]
      exact List.nil_sublist _

/-- Without pairs that may be taken away, the check against the wildcard reports the same. -/
theorem wildcard_eq (h : c'.Milder (fun _ => False) c) :
    c'.wildcardViolations items source = c.wildcardViolations items source := by
  have hback : c.node.hashKeys ⊆ c'.node.hashKeys := by
    intro a ha
    rcases h.added a ha with ha | ⟨_, hp, _⟩
    · exact ha
    · exact hp.elim
  have hcounts : Reference.counts items "*" c'.node = Reference.counts items "*" c.node :=
    Bool.eq_iff_iff.mpr ⟨Value.AsksMore.counts (Value.AsksMore.forall₂_refl items) h.hashKeys,
      Value.AsksMore.counts (Value.AsksMore.forall₂_refl items) hback⟩
  unfold wildcardViolations Reference.wildcardFindings
  rw [hcounts]
  split
  · rw [List.map_singleton, List.map_singleton, h.violation_eq]
  · rfl

end Check.Milder

theorem sublist_flatMap_of_forall₂ {α β γ : Type} {R : α → β → Prop} {xs : List α} {ys : List β}
    {f : α → List γ} {g : β → List γ} (h : List.Forall₂ R xs ys)
    (hR : ∀ x y, R x y → (f x).Sublist (g y)) : (xs.flatMap f).Sublist (ys.flatMap g) := by
  induction h with
  | nil => exact .slnil
  | cons h _ ih =>
    rw [List.flatMap_cons, List.flatMap_cons]
    exact (hR _ _ h).append ih

theorem map_eq_of_forall₂ {α β γ : Type} {R : α → β → Prop} {xs : List α} {ys : List β} {f : α → γ}
    {g : β → γ} (h : List.Forall₂ R xs ys) (hR : ∀ x y, R x y → f x = g y) :
    xs.map f = ys.map g := by
  have heq : List.Forall₂ Eq (xs.map f) (ys.map g) :=
    List.forall₂_map_left_iff.mpr (List.forall₂_map_right_iff.mpr (h.imp fun {x y} => hR x y))
  rwa [List.forall₂_eq_eq_eq] at heq

namespace Node.Milder

variable (hextra : ∀ p, extra p → p.value.isLiteral) (h : tree'.Milder extra tree)

include hextra h

/-- Either both walks come to their ends or neither does. -/
theorem firstFault_eq_none_iff : tree'.firstFault = none ↔ tree.firstFault = none := by
  have hchecks := h.checks hextra (Finset.Subset.refl ∅)
  have htargets : (tree'.checks ∅).map (·.node.componentTarget?) =
      (tree.checks ∅).map (·.node.componentTarget?) :=
    map_eq_of_forall₂ hchecks fun _ _ hc => hc.target
  have hnone (w : Node) : w.firstFault = none ↔
      ∀ target ∈ (w.checks ∅).map (·.node.componentTarget?), ∀ value, target = some value →
        value.isCollection = false := by
    rw [firstFault_eq_none_iff_checks ∅, List.forall_mem_map]
  rw [hnone, hnone, htargets]

theorem reported_sublist (hs : List.Forall₂ Value.AsksMore items items') (source : String) :
    (tree'.reported items' source).Sublist (tree.reported items source) := by
  refine sublist_flatMap_of_forall₂ (h.checks hextra (Finset.Subset.refl ∅)) fun c' c hc => ?_
  exact (hc.wildcard_sublist hs).append (hc.named_sublist hs)

end Node.Milder

theorem Node.Milder.reportedByWildcard_eq (h : tree'.Milder (fun _ => False) tree)
    (items : List Value) (source : String) :
    tree'.reportedByWildcard items source = tree.reportedByWildcard items source := by
  have hchecks := h.checks nofun (Finset.Subset.refl ∅)
  rw [reportedByWildcard, reportedByWildcard, List.flatMap_def, List.flatMap_def,
    map_eq_of_forall₂ hchecks fun _ _ hc => hc.wildcard_eq]

/-- A tree without a collection in place of a text, and an accepted setting. When blocks bind more
names and entries ask for more, the setting is still accepted and the walk comes to its end, and
what it reports was reported before, in the same order. The checks against the wildcard report
the same as long as the setting is the same. When invocations pass more, by pairs with literals,
everything that was reported still is, in the same order. -/
theorem milder_tree_reports_sublist
    (h : Setting.compile Rule.name (.list items) = .ok (some b)) (source : String) (tree : Node)
    (ht : ∀ value loc, .string value loc ∈ tree.occurrences → value.isCollection = false) :
    Rule.results ⟨some b, source⟩ tree = .ok (tree.reported items source) ∧
    (∀ items' tree', List.Forall₂ Value.AsksMore items items' →
      tree'.Milder (fun _ => False) tree →
      ∃ b', Setting.compile Rule.name (.list items') = .ok (some b') ∧
        Rule.results ⟨some b', source⟩ tree' = .ok (tree'.reported items' source) ∧
        (tree'.reported items' source).Sublist (tree.reported items source) ∧
        (items' = items →
          tree'.reportedByWildcard items' source = tree.reportedByWildcard items source)) ∧
    ∀ tree', tree.Milder (·.value.isLiteral) tree' →
      Rule.results ⟨some b, source⟩ tree' = .ok (tree'.reported items source) ∧
      (tree.reported items source).Sublist (tree'.reported items source) := by
  have hf : tree.firstFault = none := Node.firstFault_eq_none_of_texts ht
  refine ⟨Rule.results_of_no_fault h source hf, ?_, ?_⟩
  · intro items' tree' hs hmilder
    obtain ⟨b', h'⟩ := Value.AsksMore.exists_compile hs h
    have hf' : tree'.firstFault = none := (hmilder.firstFault_eq_none_iff nofun).mpr hf
    refine ⟨b', h', Rule.results_of_no_fault h' source hf', ?_, ?_⟩
    · exact hmilder.reported_sublist nofun hs source
    · rintro rfl
      exact hmilder.reportedByWildcard_eq items' source
  · intro tree' hmilder
    have hf' : tree'.firstFault = none :=
      (hmilder.firstFault_eq_none_iff fun _ hp => hp).mp hf
    refine ⟨Rule.results_of_no_fault h source hf', ?_⟩
    exact hmilder.reported_sublist (fun _ hp => hp) (Value.AsksMore.forall₂_refl items) source

/-- The block statement of `Reference.twice` without the name that it binds. -/
def openEach : Node :=
  .blockStatement ⟨.text "each", none⟩ [] .empty ⟨[fooMustache], [], none⟩ none none

def openTwice : Node := .template [openEach, fooMustache] [] none

/-- The mustache of `openTwice` with a named argument. -/
def sizedMustache : Node :=
  .mustacheStatement (.path ⟨.text "component", none⟩) [.string (.text "foo") none]
    ⟨[⟨"size", .null none, none⟩], none⟩ false none

def sizedTwice : Node := .template [openEach, sizedMustache] [] none

theorem texts_openTwice :
    ∀ value loc, .string value loc ∈ openTwice.occurrences → value.isCollection = false := by
  intro value loc h
  have hv : value = .text "foo" ∧ loc = none := by
    simpa [Node.occurrences_eq, Node.children, openTwice, openEach, fooMustache, literalMustache,
      Hash.empty] using h
  rw [hv.1]
  rfl

theorem twice_milder : twice.Milder (fun _ => False) openTwice := by
  have hbody : List.Forall₂ (Node.Milder fun _ => False) [fooMustache] [fooMustache] :=
    .cons (.refl _) .nil
  refine .template (.cons ?_ hbody)
  exact .blockStatement .nil (.refl _) (.block hbody (List.nil_subset _)) .none

theorem openTwice_milder : openTwice.Milder (·.value.isLiteral) sizedTwice := by
  refine .template (.cons (.refl _) (.cons ?_ .nil))
  exact .mustacheStatement (.refl _) (.cons (.refl _) .nil) (.hash (.add rfl .nil))

theorem reported_openTwice : openTwice.reported [.text "*", .text "foo"] "" =
    [⟨openEach, "wildcard"⟩, ⟨fooMustache, "wildcard"⟩, ⟨fooMustache, "foo"⟩,
      ⟨fooMustache, "wildcard"⟩, ⟨fooMustache, "foo"⟩].map (Finding.violation "") := by
  rw [← reports_eq_reported]
  rfl

theorem reported_twice : twice.reported [.text "*", entryFor "foo" ["size"]] "" =
    [⟨fooEach, "wildcard"⟩, ⟨fooMustache, "wildcard"⟩, ⟨fooMustache, "wildcard"⟩].map
      (Finding.violation "") := by
  rw [← reports_eq_reported]
  rfl

/-- A setting that asks for a named argument, a block that binds the name, and then an invocation
that passes the argument. -/
theorem milder_tree_reports_sublist_twice :
    (∃ b, Setting.compile Rule.name (.list [.text "*", entryFor "foo" ["size"]]) = .ok (some b) ∧
      Rule.results ⟨some b, ""⟩ twice = .ok ([⟨fooEach, "wildcard"⟩, ⟨fooMustache, "wildcard"⟩,
        ⟨fooMustache, "wildcard"⟩].map (Finding.violation "")) ∧
      (twice.reported [.text "*", entryFor "foo" ["size"]] "").Sublist
        (openTwice.reported [.text "*", .text "foo"] "")) ∧
    twice.reportedByWildcard [.text "*", .text "foo"] "" =
      openTwice.reportedByWildcard [.text "*", .text "foo"] "" ∧
    ([⟨openEach, "wildcard"⟩, ⟨fooMustache, "wildcard"⟩, ⟨fooMustache, "foo"⟩,
      ⟨fooMustache, "wildcard"⟩, ⟨fooMustache, "foo"⟩].map (Finding.violation "")).Sublist
      (sizedTwice.reported [.text "*", .text "foo"] "") := by
  have h : Setting.compile Rule.name (.list [.text "*", .text "foo"]) =
    .ok (some [("*", .passes []), ("foo", .passes [])]) := rfl
  have hmore : List.Forall₂ Value.AsksMore [.text "*", .text "foo"]
      [.text "*", entryFor "foo" ["size"]] := by
    refine .cons (.refl _) (.cons ?_ .nil)
    exact @Value.AsksMore.attributes _ _ ["size"] rfl rfl (List.nil_subset _)
  obtain ⟨-, hmilder, hliteral⟩ := milder_tree_reports_sublist h "" openTwice texts_openTwice
  obtain ⟨b, hb, hresults, hsublist, -⟩ := hmilder _ _ hmore twice_milder
  obtain ⟨-, -, -, -, hwildcard⟩ := hmilder _ _ (Value.AsksMore.forall₂_refl _) twice_milder
  obtain ⟨-, hkept⟩ := hliteral _ openTwice_milder
  rw [reported_twice] at hresults
  rw [reported_openTwice] at hkept
  exact ⟨⟨b, hb, hresults, hsublist⟩, hwildcard rfl, hkept⟩

end TemplateLint
