import TemplateLint.Lint.Linter
import TemplateLint.Proofs.TreeWalk

/-! The result of linting a tree under a table with the one rule. -/

namespace TemplateLint

variable {setting : Value} {tree : Node} {source : String} {b : Blacklist}

namespace LintM

@[simp] theorem exec_logAll (records : List Log.Record) (log : Array Log.Record) :
    exec (Linter.logAll records) log = (.ok (), log.appendList records) := rfl

end LintM

namespace Linter

/-- The violations of a tree, or the fault that stops the run. -/
def result (tree : Node) (rules : Fields) (source : String) : Except LintFault (List Violation) :=
  (exec (lint tree rules source) #[]).1

theorem exec_setUp {blacklist : Option Blacklist} (log : Array Log.Record)
    (h : Setting.compile Rule.name setting = .ok blacklist) :
    exec (setUp source Rule.name setting) log =
      (.ok ⟨blacklist, source⟩, log.appendList [Rule.settingRecord blacklist]) := by
  have hr : Rule.ofSetting setting source = .ok ⟨blacklist, source⟩ := by
    rw [Rule.ofSetting, h]
    rfl
  simp only [setUp, hr]
  rfl

theorem exec_setUpAll {blacklist : Option Blacklist} (log : Array Log.Record)
    (h : Setting.compile Rule.name setting = .ok blacklist) :
    exec (setUpAll [(Rule.name, setting)] source) log =
      (.ok ([⟨blacklist, source⟩].filter Rule.enabled),
        log.appendList [Rule.settingRecord blacklist]) := by
  simp only [setUpAll, List.mapM_cons, List.mapM_nil, bind_assoc, pure_bind, exec_bind,
    exec_setUp log h, exec_pure]

theorem exec_runRule_fst (tree : Node) (b : Blacklist) (source : String)
    (log : Array Log.Record) :
    (exec (runRule tree ⟨some b, source⟩) log).1 =
      match exec (tree.traverse b.visitor) {} with
      | (.ok (), w) => .ok (w.findings.map (Finding.violation source))
      | (.error e, _) => .error (.check e) := by
  have hw : Rule.walk ⟨some b, source⟩ tree = exec (tree.traverse b.visitor) {} := rfl
  rw [runRule, hw]
  rcases exec (tree.traverse b.visitor) {} with ⟨e | u, w⟩
  · simp [exec_bind]
  · simp [exec_map, Rule.violations]

/-- A setting that turns the rule off. -/
theorem result_of_off (h : Setting.compile Rule.name setting = .ok none) :
    result tree [(Rule.name, setting)] source = .ok [] := by
  simp [result, lint, exec_bind, exec_setUpAll _ h, Rule.enabled, Violation.sort]

/-- A setting with a blacklist. -/
theorem result_of_compile (h : Setting.compile Rule.name setting = .ok (some b)) :
    result tree [(Rule.name, setting)] source =
      match exec (tree.traverse b.visitor) {} with
      | (.ok (), w) => .ok (Violation.sort (w.findings.map (Finding.violation source)))
      | (.error e, _) => .error (.check e) := by
  have hr := exec_runRule_fst tree b source (#[].appendList [Rule.settingRecord (some b)])
  have hf : [(⟨some b, source⟩ : Rule)].filter Rule.enabled = [⟨some b, source⟩] := rfl
  simp only [result, lint, exec_bind, exec_setUpAll _ h, hf, List.mapM_cons, List.mapM_nil]
  generalize exec (runRule tree ⟨some b, source⟩) _ = run at hr ⊢
  generalize exec (tree.traverse b.visitor) {} = walked at hr ⊢
  obtain ⟨e | vs, log⟩ := run
  · obtain ⟨e' | u, w⟩ := walked
    · simpa using hr
    · cases hr
  · obtain ⟨e' | u, w⟩ := walked
    · cases hr
    · cases hr
      simp

/-- What linting gives for a tree without a fault. -/
theorem result_of_no_fault (h : Setting.compile Rule.name setting = .ok (some b))
    (hf : tree.firstFault = none) :
    result tree [(Rule.name, setting)] source =
      .ok (Violation.sort (((tree.treeEvents b []).filterMap Event.finding?).map
        (Finding.violation source))) := by
  rw [result_of_compile h, Node.exec_traverse b hf]
  simp [Walk.findings]

/-- The first fault of a tree ends the run. -/
theorem result_of_fault {e : CheckFault} (h : Setting.compile Rule.name setting = .ok (some b))
    (hf : tree.firstFault = some e) :
    result tree [(Rule.name, setting)] source = .error (.check e) := by
  have hw := Node.exec_traverse_fst b tree {}
  rw [hf] at hw
  rw [result_of_compile h]
  generalize exec (tree.traverse b.visitor) {} = walked at hw ⊢
  obtain ⟨outcome, w⟩ := walked
  cases hw
  rfl

end Linter

end TemplateLint
