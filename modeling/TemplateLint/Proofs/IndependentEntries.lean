import Mathlib.Data.List.Flatten
import Mathlib.Data.List.Perm.Basic
import TemplateLint.Proofs.LexicalScope

/-!
Settings that give different names. Main statement: a tree is linted under both at once with what
is reported under each, and the order of the two settings does not matter.
-/

namespace TemplateLint

open Reference Surrounding

variable {xs ys : List Value} {name rule : String}

/-- The names that the entries of a setting give. -/
def entryNames (items : List Value) : List String :=
  items.filterMap Value.entryName?

theorem lastAttributes?_eq_none (h : name ∉ entryNames xs) : lastAttributes? xs name = none := by
  have hf : (xs.filter fun v => v.entryName? = some name) = [] := by
    rw [List.filter_eq_nil_iff]
    intro v hv hn
    exact h (List.mem_filterMap.mpr ⟨v, hv, of_decide_eq_true hn⟩)
  rw [lastAttributes?, hf]
  rfl

theorem lastAttributes?_append (xs ys : List Value) (name : String) :
    lastAttributes? (xs ++ ys) name =
      (lastAttributes? ys name).or (lastAttributes? xs name) := by
  rw [lastAttributes?, List.filter_append, List.map_append, List.getLast?_append]
  rfl

/-- A name counts under two settings that give different names as it does under the one that
gives it. -/
theorem Reference.counts_append (h : List.Disjoint (entryNames xs) (entryNames ys))
    (name : String) (v : Node) :
    (counts (xs ++ ys) name v = counts xs name v ∧ counts ys name v = false) ∨
      (counts (xs ++ ys) name v = counts ys name v ∧ counts xs name v = false) := by
  rw [counts_eq, counts_eq, counts_eq, lastAttributes?_append]
  by_cases hx : name ∈ entryNames xs
  · left
    have hy : name ∉ entryNames ys := fun hy => h hx hy
    simp [lastAttributes?_eq_none hy]
  · right
    simp [lastAttributes?_eq_none hx]

theorem Reference.wildcardFindings_append (h : List.Disjoint (entryNames xs) (entryNames ys))
    (v : Node) :
    wildcardFindings (xs ++ ys) v = wildcardFindings xs v ++ wildcardFindings ys v := by
  unfold wildcardFindings
  rcases counts_append h "*" v with ⟨hc, hn⟩ | ⟨hc, hn⟩ <;> simp [hc, hn]

theorem Reference.namedFindings_append (h : List.Disjoint (entryNames xs) (entryNames ys))
    (env : Finset String) (v : Node) :
    namedFindings (xs ++ ys) env v = namedFindings xs env v ++ namedFindings ys env v := by
  unfold namedFindings
  cases target? v with
  | none => rfl
  | some name => rcases counts_append h name v with ⟨hc, hn⟩ | ⟨hc, hn⟩ <;> simp [hc, hn]

theorem Reference.counts_comm (h : List.Disjoint (entryNames xs) (entryNames ys)) :
    counts (xs ++ ys) = counts (ys ++ xs) := by
  funext name v
  rcases counts_append h name v with ⟨hc, hn⟩ | ⟨hc, hn⟩ <;>
    rcases counts_append h.symm name v with ⟨hd, hm⟩ | ⟨hd, hm⟩ <;> simp_all

namespace Visit

/-- What is found of a node under two settings: the wildcard of either comes before the names. -/
theorem findings_append (h : List.Disjoint (entryNames xs) (entryNames ys)) (p : Visit) :
    p.findings (xs ++ ys) = p.wildcardFindings xs ++ p.wildcardFindings ys ++
      (p.namedFindings xs ++ p.namedFindings ys) := by
  unfold findings wildcardFindings namedFindings
  split
  · rw [Reference.wildcardFindings_append h, Reference.namedFindings_append h]
  · rfl

theorem findings_append_perm (h : List.Disjoint (entryNames xs) (entryNames ys)) (p : Visit) :
    (p.findings (xs ++ ys)).Perm (p.findings xs ++ p.findings ys) := by
  rw [findings_append h, findings, findings, List.append_assoc, List.append_assoc]
  exact (List.perm_append_comm_assoc _ _ _).append_left _

theorem findings_sublist_append (h : List.Disjoint (entryNames xs) (entryNames ys)) (p : Visit) :
    (p.findings xs).Sublist (p.findings (xs ++ ys)) := by
  rw [findings_append h]
  exact (List.sublist_append_left _ _).append (List.sublist_append_left _ _)

theorem findings_comm (h : List.Disjoint (entryNames xs) (entryNames ys)) (p : Visit) :
    p.findings (xs ++ ys) = p.findings (ys ++ xs) := by
  have hc := counts_comm h
  simp only [findings, wildcardFindings, namedFindings, Reference.wildcardFindings,
    Reference.namedFindings, hc]

end Visit

namespace Setting

theorem compile_append {b₁ b₂ : Blacklist} (h₁ : compile rule (.list xs) = .ok (some b₁))
    (h₂ : compile rule (.list ys) = .ok (some b₂)) :
    ∃ b, compile rule (.list (xs ++ ys)) = .ok (some b) := by
  obtain ⟨entries₁, hx, -⟩ := Blacklist.entries_of_compile h₁
  obtain ⟨entries₂, hy, -⟩ := Blacklist.entries_of_compile h₂
  have hm : (xs ++ ys).mapM Entry.decode = .ok (entries₁ ++ entries₂) := by
    rw [List.mapM_append, hx, hy]
    rfl
  exact ⟨_, Blacklist.compile_of_entries rule hm⟩

end Setting

/-- The violations of a tree in the order of a walk. -/
def Node.violations (items : List Value) (source : String) (tree : Node) : List Violation :=
  ((tree.visits []).flatMap (Visit.findings items)).map (Finding.violation source)

namespace Node

variable (h : List.Disjoint (entryNames xs) (entryNames ys)) (source : String) (tree : Node)

include h

theorem violations_append_perm : (tree.violations (xs ++ ys) source).Perm
    (tree.violations xs source ++ tree.violations ys source) := by
  rw [violations, violations, violations, ← List.map_append]
  have each := List.Perm.flatMap_left (tree.visits []) fun p _ => Visit.findings_append_perm h p
  exact (each.trans (List.flatMap_append_perm _ _ _).symm).map _

theorem violations_sublist_append :
    (tree.violations xs source).Sublist (tree.violations (xs ++ ys) source) :=
  (List.Sublist.flatMap_right _ fun p _ => Visit.findings_sublist_append h p).map _

theorem violations_comm :
    tree.violations (xs ++ ys) source = tree.violations (ys ++ xs) source := by
  have each := List.flatMap_congr fun p (_ : p ∈ tree.visits []) => Visit.findings_comm h p
  rw [violations, violations, each]

end Node

/-- Two accepted settings that give different names: under both together a tree is linted to the
violations of each, which stay in the order that they have under it alone. It does not matter which
of the two comes first. -/
theorem lint_append_of_disjoint {b₁ b₂ : Blacklist}
    (h₁ : Setting.compile Rule.name (.list xs) = .ok (some b₁))
    (h₂ : Setting.compile Rule.name (.list ys) = .ok (some b₂))
    (h : List.Disjoint (entryNames xs) (entryNames ys)) (tree : Node) (source : String)
    (ht : ∀ value loc, .string value loc ∈ tree.occurrences → value.isCollection = false) :
    ∃ vs₁ vs₂ vs,
      Linter.result tree [(Rule.name, .list xs)] source = .ok vs₁ ∧
      Linter.result tree [(Rule.name, .list ys)] source = .ok vs₂ ∧
      Linter.result tree [(Rule.name, .list (xs ++ ys))] source = .ok vs ∧
      Linter.result tree [(Rule.name, .list (ys ++ xs))] source = .ok vs ∧
      vs.Perm (vs₁ ++ vs₂) ∧ vs₁.Sublist vs ∧ vs₂.Sublist vs := by
  obtain ⟨b, hb⟩ := Setting.compile_append h₁ h₂
  obtain ⟨b', hb'⟩ := Setting.compile_append h₂ h₁
  have hcomm := tree.violations_comm h source
  refine ⟨_, _, Violation.sort (tree.violations (xs ++ ys) source),
    Linter.result_eq_sort_visits tree source h₁ ht, Linter.result_eq_sort_visits tree source h₂ ht,
    Linter.result_eq_sort_visits tree source hb ht, ?_, ?_, ?_, ?_⟩
  · rw [hcomm]
    exact Linter.result_eq_sort_visits tree source hb' ht
  · have together := (Violation.sort_perm _).trans (tree.violations_append_perm h source)
    exact together.trans ((Violation.sort_perm _).symm.append (Violation.sort_perm _).symm)
  · exact Violation.sort_sublist (tree.violations_sublist_append h source)
  · rw [hcomm]
    exact Violation.sort_sublist (tree.violations_sublist_append h.symm source)

/-- Violations that a walk finds in the order of their places are given as they are. -/
theorem Linter.result_of_ordered {b : Blacklist} (tree : Node) (source : String)
    (h : Setting.compile Rule.name (.list xs) = .ok (some b))
    (ht : ∀ value loc, .string value loc ∈ tree.occurrences → value.isCollection = false)
    (ho : (tree.violations xs source).Pairwise fun a b => Violation.le a b) :
    Linter.result tree [(Rule.name, .list xs)] source = .ok (tree.violations xs source) :=
  (Linter.result_eq_sort_visits tree source h ht).trans
    (congrArg Except.ok (List.mergeSort_of_pairwise ho))

theorem violations_twice_wildcard : twice.violations [.text "*"] "" =
    [⟨fooEach, "wildcard"⟩, ⟨fooMustache, "wildcard"⟩, ⟨fooMustache, "wildcard"⟩].map
      (Finding.violation "") := by
  rw [Node.violations, ← node_eq_flatMap_visits]
  rfl

theorem violations_twice_foo : twice.violations [.text "foo"] "" =
    [⟨fooMustache, "foo"⟩].map (Finding.violation "") := by
  rw [Node.violations, ← node_eq_flatMap_visits]
  rfl

/-- The wildcard and a name together. -/
theorem lint_append_of_disjoint_twice :
    ∃ vs, Linter.result twice [(Rule.name, .list [.text "*", .text "foo"])] "" = .ok vs ∧
      Linter.result twice [(Rule.name, .list [.text "foo", .text "*"])] "" = .ok vs ∧
      vs.Perm (twice.violations [.text "*"] "" ++ twice.violations [.text "foo"] "") ∧
      (twice.violations [.text "*"] "").Sublist vs ∧
      (twice.violations [.text "foo"] "").Sublist vs ∧ vs.length = 4 := by
  have h₁ : Setting.compile Rule.name (.list [.text "*"]) = .ok (some [("*", .passes [])]) := rfl
  have h₂ : Setting.compile Rule.name (.list [.text "foo"]) =
    .ok (some [("*", .never), ("foo", .passes [])]) := rfl
  have h : List.Disjoint (entryNames [.text "*"]) (entryNames [.text "foo"]) := by
    simp [entryNames, Value.entryName?]
  have e₁ := Linter.result_of_ordered twice "" h₁ texts_twice (by
    rw [violations_twice_wildcard]
    decide)
  have e₂ := Linter.result_of_ordered twice "" h₂ texts_twice (by
    rw [violations_twice_foo]
    decide)
  obtain ⟨vs₁, vs₂, vs, r₁, r₂, both, swapped, perm, left, right⟩ :=
    lint_append_of_disjoint h₁ h₂ h twice "" texts_twice
  cases e₁.symm.trans r₁
  cases e₂.symm.trans r₂
  refine ⟨vs, both, swapped, perm, left, right, ?_⟩
  rw [perm.length_eq, violations_twice_wildcard, violations_twice_foo]
  rfl

end TemplateLint
