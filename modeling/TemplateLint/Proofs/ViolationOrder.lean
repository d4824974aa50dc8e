import Mathlib.Data.Prod.Lex
import TemplateLint.Lint.Violation

/-! The order of reports: sorting by place is stable. -/

namespace TemplateLint.Violation

/-- By lines, and in one line by columns. A line or a column that is not known counts as zero. -/
def Ascending (vs : List Violation) : Prop :=
  vs.Pairwise fun a b =>
    toLex (a.line.getD 0, a.column.getD 0) ≤ toLex (b.line.getD 0, b.column.getD 0)

theorem le_iff {a b : Violation} : le a b ↔
    toLex (a.line.getD 0, a.column.getD 0) ≤ toLex (b.line.getD 0, b.column.getD 0) := by
  rw [Prod.Lex.toLex_le_toLex]
  simp only [le, Bool.or_eq_true, Bool.and_eq_true, decide_eq_true_eq]
  rfl

theorem le_transitive (a b c : Violation) (hab : le a b) (hbc : le b c) : le a c := by
  rw [le_iff] at *
  exact le_trans hab hbc

theorem le_linear (a b : Violation) : le a b || le b a := by
  rw [Bool.or_eq_true, le_iff, le_iff]
  exact le_total _ _

theorem ascending_sort (vs : List Violation) : Ascending (sort vs) :=
  (List.pairwise_mergeSort le_transitive le_linear vs).imp le_iff.mp

/-- A violation comes before those of the others that are not before it. -/
theorem sort_cons (a : Violation) (vs : List Violation) :
    sort (a :: vs) = (sort vs).filter (fun b => !le a b) ++ a :: (sort vs).filter (le a) := by
  obtain ⟨before, after, hc, hs, hb⟩ := List.mergeSort_cons le_transitive le_linear a vs
  have ordered := List.pairwise_mergeSort le_transitive le_linear (a :: vs)
  rw [hc, List.pairwise_append, List.pairwise_cons] at ordered
  have ha : ∀ b ∈ after, le a b := ordered.2.1.1
  rw [sort, sort, hc, hs, List.filter_append, List.filter_append, List.filter_eq_self.mpr hb,
    List.filter_eq_self.mpr ha, List.filter_eq_nil_iff.mpr, List.filter_eq_nil_iff.mpr]
  · simp
  · intro b hm
    simpa using hb b hm
  · intro b hm
    simpa using ha b hm

theorem sublist_sort_cons (a : Violation) (vs : List Violation) :
    (sort vs).Sublist (sort (a :: vs)) := by
  obtain ⟨before, after, hc, hs, -⟩ := List.mergeSort_cons le_transitive le_linear a vs
  rw [sort, sort, hc, hs]
  exact (List.sublist_cons_self a after).append_left before

/-- Sorting keeps the order of what there is when more is added. -/
theorem sort_sublist {xs ys : List Violation} (h : xs.Sublist ys) :
    (sort xs).Sublist (sort ys) := by
  induction h with
  | slnil => exact .refl _
  | cons a _ ih => exact ih.trans (sublist_sort_cons a _)
  | cons_cons a _ ih =>
    rw [sort_cons, sort_cons]
    exact (ih.filter _).append ((ih.filter _).cons_cons a)

theorem sort_perm (vs : List Violation) : (sort vs).Perm vs :=
  List.mergeSort_perm vs le

end TemplateLint.Violation
