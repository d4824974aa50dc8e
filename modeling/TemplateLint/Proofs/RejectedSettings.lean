import TemplateLint.Lint.Config
import TemplateLint.Proofs.LintRun

/-!
A setting that its rule does not accept stops a run before any tree is walked. Main statement: then
it stops the run on every tree, and no tree brings this about by itself.
-/

namespace TemplateLint

open Linter

variable {rules : Fields} {tree : Node} {source name : String} {config : Value}

/-- The table holds a setting that its rule does not accept. -/
def Fields.Rejected (rules : Fields) : Prop :=
  ∃ entry ∈ rules, ∃ e, Setting.compile Rule.name entry.2 = .error e

/-- The table holds no names but those of rules. -/
def Fields.Registered (rules : Fields) : Prop :=
  ∀ entry ∈ rules, entry.1 ∈ ruleNames

/-- The error of the first setting of the table that its rule does not accept. -/
def Fields.FirstRejected (rules : Fields) (e : SettingError) : Prop :=
  ∃ before name config after, rules = before ++ (name, config) :: after ∧
    ¬ Fields.Rejected before ∧ Setting.compile Rule.name config = .error e

theorem Fields.not_rejected_nil : ¬ Fields.Rejected [] := by
  rintro ⟨entry, hm, -⟩
  cases hm

theorem Fields.Registered.tail {entry : String × Value} (h : Fields.Registered (entry :: rules)) :
    Fields.Registered rules :=
  fun other hm => h other (List.mem_cons_of_mem entry hm)

theorem Fields.rejected_cons_iff {entry : String × Value} :
    Fields.Rejected (entry :: rules) ↔
      (∃ e, Setting.compile Rule.name entry.2 = .error e) ∨ rules.Rejected := by
  simp [Rejected]

theorem Fields.FirstRejected.rejected {e : SettingError} (h : rules.FirstRejected e) :
    rules.Rejected := by
  obtain ⟨before, name, config, after, rfl, -, hc⟩ := h
  exact ⟨(name, config), List.mem_append_right before List.mem_cons_self, e, hc⟩

theorem Fields.FirstRejected.cons {entry : String × Value} {e : SettingError}
    (ha : ∀ e, Setting.compile Rule.name entry.2 ≠ .error e) (h : rules.FirstRejected e) :
    Fields.FirstRejected (entry :: rules) e := by
  obtain ⟨before, name, config, after, rfl, hb, hc⟩ := h
  refine ⟨entry :: before, name, config, after, rfl, ?_, hc⟩
  rw [rejected_cons_iff]
  rintro (⟨e', he⟩ | hr)
  · exact ha e' he
  · exact hb hr

theorem Fields.FirstRejected.of_cons {entry : String × Value} {e : SettingError}
    (h : Fields.FirstRejected (entry :: rules) e) :
    Setting.compile Rule.name entry.2 = .error e ∨
      (∀ e, Setting.compile Rule.name entry.2 ≠ .error e) ∧ rules.FirstRejected e := by
  obtain ⟨before, name, config, after, hs, hb, hc⟩ := h
  cases before with
  | nil =>
    cases hs
    exact .inl hc
  | cons first before =>
    cases hs
    rw [rejected_cons_iff] at hb
    exact .inr ⟨fun e he => hb (.inl ⟨e, he⟩), before, name, config, after, rfl,
      fun hr => hb (.inr hr), hc⟩

theorem Fields.FirstRejected.eq {e e' : SettingError} (h : rules.FirstRejected e)
    (h' : rules.FirstRejected e') : e = e' := by
  induction rules with
  | nil => exact (not_rejected_nil h.rejected).elim
  | cons entry rest ih =>
    rcases h.of_cons with hc | ⟨hn, hr⟩
    · rcases h'.of_cons with hc' | ⟨hn', -⟩
      · rw [hc] at hc'
        cases hc'
        rfl
      · exact (hn' e hc).elim
    · rcases h'.of_cons with hc' | ⟨-, hr'⟩
      · exact (hn e' hc').elim
      · exact ih hr hr'

/-- The names of a configuration that was taken are those of rules. -/
theorem LintConfig.registered_of_ofFields {data : Fields} {path : Option Path} {c : LintConfig}
    (h : ofFields data (some ruleNames) path = .ok c) : c.rules.Registered := by
  obtain ⟨rules, -, hk, rfl⟩ := ofFields_eq_ok_iff.mp h
  exact fun entry hm => hk ruleNames rfl entry.1 (List.mem_map_of_mem hm)

namespace Linter

theorem exec_setUp_rejected {e : SettingError} (log : Array Log.Record) (hn : name ∈ ruleNames)
    (h : Setting.compile Rule.name config = .error e) :
    exec (setUp source name config) log = (.error (.setting e), log) := by
  cases List.mem_singleton.mp hn
  have hr : Rule.ofSetting config source = .error e := by
    rw [Rule.ofSetting, h]
    rfl
  simp only [setUp, hr]
  rfl

/-- Setting up the rules of a table goes through, or ends at the first setting that is not
accepted. -/
theorem exec_mapM_setUp_cases (hr : rules.Registered) (source : String) (log : Array Log.Record) :
    (¬ rules.Rejected ∧ ∃ all log', exec (rules.mapM fun (name, config) =>
      setUp source name config) log = (.ok all, log')) ∨
    (∃ e log', rules.FirstRejected e ∧ exec (rules.mapM fun (name, config) =>
      setUp source name config) log = (.error (.setting e), log')) := by
  induction rules generalizing log with
  | nil => exact .inl ⟨Fields.not_rejected_nil, [], log, rfl⟩
  | cons entry rest ih =>
    obtain ⟨name, config⟩ := entry
    have hn : name ∈ ruleNames := hr _ List.mem_cons_self
    simp only [List.mapM_cons, exec_bind]
    cases hc : Setting.compile Rule.name config with
    | error e =>
      right
      rw [exec_setUp_rejected log hn hc]
      exact ⟨e, log, ⟨[], name, config, rest, rfl, Fields.not_rejected_nil, hc⟩, rfl⟩
    | ok blacklist =>
      cases List.mem_singleton.mp hn
      have ha : ∀ e, Setting.compile Rule.name config ≠ .error e := by simp [hc]
      rw [exec_setUp log hc]
      simp only
      rcases ih hr.tail (log.appendList [Rule.settingRecord blacklist]) with
        ⟨hnone, all, log', h⟩ | ⟨e, log', he, h⟩
      · left
        rw [h, Fields.rejected_cons_iff]
        refine ⟨?_, _, _, rfl⟩
        rintro (⟨e, hb⟩ | hb)
        · exact ha e hb
        · exact hnone hb
      · right
        rw [h]
        exact ⟨e, _, he.cons ha, rfl⟩

theorem exec_setUpAll_cases (hr : rules.Registered) (source : String) (log : Array Log.Record) :
    (¬ rules.Rejected ∧ ∃ ready log', exec (setUpAll rules source) log = (.ok ready, log')) ∨
    (∃ e log', rules.FirstRejected e ∧
      exec (setUpAll rules source) log = (.error (.setting e), log')) := by
  simp only [setUpAll, exec_bind]
  rcases exec_mapM_setUp_cases hr source log with ⟨ha, all, log', h⟩ | ⟨e, log', he, h⟩
  · left
    rw [h]
    exact ⟨ha, _, _, rfl⟩
  · right
    rw [h]
    exact ⟨e, _, he, rfl⟩

theorem check_of_exec_runRule {rule : Rule} {log log' : Array Log.Record} {e : LintFault}
    (h : exec (runRule tree rule) log = (.error e, log')) : ∃ fault, e = .check fault := by
  simp only [runRule, exec_bind, LintM.exec_logAll] at h
  split at h
  · cases h
  · rename_i fault _
    cases h
    exact ⟨fault, rfl⟩

theorem check_of_exec_mapM_runRule {ready : List Rule} {log log' : Array Log.Record}
    {e : LintFault} (h : exec (ready.mapM (runRule tree)) log = (.error e, log')) :
    ∃ fault, e = .check fault := by
  induction ready generalizing log log' with
  | nil => cases h
  | cons rule rest ih =>
    simp only [List.mapM_cons, exec_bind] at h
    rcases hx : exec (runRule tree rule) log with ⟨e' | vs, log₁⟩
    · rw [hx] at h
      cases h
      exact check_of_exec_runRule hx
    · rw [hx] at h
      simp only at h
      rcases hy : exec (rest.mapM (runRule tree)) log₁ with ⟨e' | all, log₂⟩
      · rw [hy] at h
        cases h
        exact ih hy
      · rw [hy] at h
        cases h

/-- A run ends at the first setting that is not accepted, or else at nothing but the fault of a
check. -/
theorem result_cases (hr : rules.Registered) (tree : Node) (source : String) :
    (¬ rules.Rejected ∧
      ∀ fault, result tree rules source = .error fault → ∃ e, fault = .check e) ∨
    ∃ e, rules.FirstRejected e ∧ result tree rules source = .error (.setting e) := by
  unfold result
  rw [lint, exec_bind]
  rcases exec_setUpAll_cases hr source #[] with ⟨ha, ready, log, h⟩ | ⟨e, log, he, h⟩
  · left
    rw [h]
    simp only [exec_bind]
    rcases hx : exec (ready.mapM (runRule tree)) log with ⟨e | found, log'⟩
    · obtain ⟨fault, rfl⟩ := check_of_exec_mapM_runRule hx
      simp [ha]
    · simp [ha]
  · right
    rw [h]
    exact ⟨e, he, rfl⟩

theorem result_eq_setting_iff (hr : rules.Registered) (tree : Node) (source : String) :
    (∃ e, result tree rules source = .error (.setting e)) ↔ rules.Rejected := by
  rcases result_cases hr tree source with ⟨ha, hc⟩ | ⟨e, he, h⟩
  · refine iff_of_false ?_ ha
    rintro ⟨e, h⟩
    obtain ⟨_, ⟨⟩⟩ := hc _ h
  · exact iff_of_true ⟨e, h⟩ he.rejected

end Linter

end TemplateLint
