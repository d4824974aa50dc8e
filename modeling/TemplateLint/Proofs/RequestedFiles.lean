import TemplateLint.Cli.Arguments

/-! A command line that asks for a run names the files of the run. -/

namespace TemplateLint.Cli

/-- The files that a command line names so far, if it names any. -/
def Files.NonEmpty : Files → Prop
  | .none => True
  | .current files | .complete files => files ≠ []

theorem Files.NonEmpty.close {files : Files} (h : files.NonEmpty) : files.close.NonEmpty := by
  cases files <;> exact h

namespace Arguments

variable {a a' : Arguments} {t : Token} {flag : Flag}

theorem files_setValue (a : Arguments) (flag : Flag) (value : String) :
    (a.setValue flag value).files = a.files := by
  cases flag <;> rfl

theorem files_option {value : Option String} (h : a.option flag value = .ok a') :
    a'.files = a.files := by
  unfold option at h
  split at h
  · cases h
    exact files_setValue a flag _
  · cases h
    rfl
  · cases h
  · cases flag <;> cases h <;> rfl

theorem nonEmpty_positional (h : a.files.NonEmpty) (s : String) :
    (a.positional s).files.NonEmpty := by
  unfold positional
  split
  · exact List.cons_ne_nil s []
  · exact List.append_ne_nil_of_right_ne_nil _ (List.cons_ne_nil s [])
  · exact h

theorem nonEmpty_step (h : a.files.NonEmpty) (hs : a.step t = .ok a') : a'.files.NonEmpty := by
  unfold step at hs
  split at hs
  · cases hs
    rw [files_setValue]
    exact h
  · cases hs
  · cases hs
    exact nonEmpty_positional h _
  · split at hs <;> cases hs <;> exact h
  · rw [files_option hs]
    exact h.close
  · cases hs
  · cases hs
    exact h.close

theorem nonEmpty_foldlM {ts : List Token} (h : a.files.NonEmpty)
    (hs : ts.foldlM step a = .ok a') : a'.files.NonEmpty := by
  induction ts generalizing a with
  | nil =>
    cases hs
    exact h
  | cons t rest ih =>
    rw [List.foldlM_cons] at hs
    cases ht : a.step t with
    | error e =>
      rw [ht] at hs
      cases hs
    | ok next =>
      rw [ht] at hs
      exact ih (nonEmpty_step h ht) hs

theorem files_ne_nil_of_request {r : Request} (h : a.files.NonEmpty) (hr : a.request = .ok r) :
    r.files ≠ [] := by
  unfold request at hr
  split at hr
  · cases hr
  · split at hr
    · cases hr
    all_goals
      rename_i files hf
      rw [hf] at h
      split at hr
      · cases hr
        exact fun hm => h (List.map_eq_nil_iff.mp hm)
      · cases hr

end Arguments

/-- A command line that asks for a run names a file. -/
theorem Request.files_ne_nil {arguments : List String} {r : Request}
    (h : Request.ofArguments arguments = .ok r) : r.files ≠ [] := by
  unfold ofArguments at h
  cases ht : tokens arguments with
  | error e =>
    rw [ht] at h
    cases h
  | ok ts =>
    rw [ht] at h
    change (ts.foldlM Arguments.step {} >>= Arguments.request) = .ok r at h
    cases ha : ts.foldlM Arguments.step {} with
    | error e =>
      rw [ha] at h
      cases h
    | ok a =>
      rw [ha] at h
      have hn : (({} : Arguments).files).NonEmpty := trivial
      exact Arguments.files_ne_nil_of_request (Arguments.nonEmpty_foldlM hn ha) h

end TemplateLint.Cli
