import TemplateLint.Lint.Config
import TemplateLint.Log.Logger
import TemplateLint.Proofs.LintRun

/-!
The records of a run. Main statements: loading a configuration and linting a tree log details alone,
on channels of this program.
-/

namespace TemplateLint

open Log

/-- The line of a record in a log. -/
def Log.Record.line (stamp : String) (r : Record) : String :=
  stamp ++ " - " ++ r.channel ++ " - " ++ levelName r.level ++ " - " ++ r.message ++ "\n"

def Log.linesOf (stamp : String) (records : List Record) : String :=
  String.join (records.map (Record.line stamp))

/-- A record as this program logs them: on its own channels, with details or about an error. -/
structure Log.Record.OfRun (r : Record) : Prop where
  channel : Logger.covers r.channel
  level : r.level = debug ∨ r.level = error

variable {records : List Record} {tree : Node} {source : String}

@[simp] theorem Log.linesOf_nil (stamp : String) : linesOf stamp [] = "" := rfl

theorem Log.linesOf_append (stamp : String) (records more : List Record) :
    linesOf stamp (records ++ more) = linesOf stamp records ++ linesOf stamp more := by
  rw [linesOf, List.map_append, String.join_append]
  rfl

theorem ofRun_of_channel {channel : String} (h : Logger.covers channel = true) (message : String) :
    (Record.mk channel debug message).OfRun :=
  ⟨h, .inl rfl⟩

theorem ofRun_event (e : Event) : e.record.OfRun := by
  have hscope : Logger.covers scopeChannel = true := by decide +kernel
  have hcheck : Logger.covers checkChannel = true := by decide +kernel
  have hrule : Logger.covers ruleChannel = true := by decide +kernel
  cases e with
  | pushed depth frame => exact ofRun_of_channel hscope _
  | popped depth => exact ofRun_of_channel hscope _
  | shadowed name => exact ofRun_of_channel hcheck _
  | found finding => exact ofRun_of_channel hrule _

theorem covers_rootChannel : Logger.covers rootChannel = true := by decide +kernel

theorem covers_configChannel : Logger.covers configChannel = true := by decide +kernel

theorem ofRun_settingRecord (b : Option Blacklist) : (Rule.settingRecord b).OfRun := by
  cases b with
  | none => exact ofRun_of_channel covers_configChannel _
  | some b => exact ofRun_of_channel covers_configChannel _

namespace LintM

variable {α β γ : Type} {x : LintM α} {f : α → LintM β}

/-- A part of linting logs records of a run alone. -/
def LogsOfRun (x : LintM α) : Prop :=
  ∀ log : Array Record, (∀ r ∈ log, r.OfRun) → ∀ r ∈ (exec x log).2, r.OfRun

theorem LogsOfRun.pure (a : α) : LogsOfRun (Pure.pure a) :=
  fun _ h => h

theorem LogsOfRun.throw (e : LintFault) : LogsOfRun (MonadExcept.throw e : LintM α) :=
  fun _ h => h

theorem LogsOfRun.stop (e : LintFault) : LogsOfRun (MonadExcept.throw e >>= f) :=
  fun _ h => h

theorem LogsOfRun.bind (h : LogsOfRun x) (h' : ∀ a, LogsOfRun (f a)) : LogsOfRun (x >>= f) := by
  intro log hlog
  have hx := h log hlog
  rw [exec_bind]
  generalize exec x log = reached at hx ⊢
  obtain ⟨e | a, log'⟩ := reached
  · exact hx
  · exact h' a log' hx

theorem LogsOfRun.mapM {g : γ → LintM α} (h : ∀ c, LogsOfRun (g c)) (xs : List γ) :
    LogsOfRun (xs.mapM g) := by
  induction xs with
  | nil => exact .pure []
  | cons c rest ih =>
    rw [List.mapM_cons]
    exact (h c).bind fun _ => ih.bind fun _ => .pure _

theorem LogsOfRun.logAll (h : ∀ r ∈ records, r.OfRun) : LogsOfRun (Linter.logAll records) := by
  intro log hlog r hr
  have hmem : r ∈ (log.appendList records).toList := Array.mem_toList_iff.mpr hr
  rw [Array.appendList_eq_append, Array.toList_appendList, List.mem_append] at hmem
  rcases hmem with hr | hr
  · exact hlog r (Array.mem_toList_iff.mp hr)
  · exact h r hr

end LintM

open LintM

theorem logsOfRun_setUp (source : String) (setting : String × Value) :
    LogsOfRun (Linter.setUp source setting.1 setting.2) := by
  have hrecord (rule : Rule) : LogsOfRun (do
      Linter.logAll [Rule.settingRecord rule.blacklist]
      return rule) := by
    have hr := ofRun_settingRecord rule.blacklist
    exact (LogsOfRun.logAll (List.forall_mem_singleton.mpr hr)).bind fun _ => .pure rule
  unfold Linter.setUp
  by_cases hn : Linter.ruleNames.contains setting.1 = true
  · simp only [hn, if_true]
    cases Rule.ofSetting setting.2 source with
    | error e => exact .throw _
    | ok rule => exact hrecord rule
  · simp only [hn]
    exact .stop _

theorem logsOfRun_runRule (tree : Node) (rule : Rule) : LogsOfRun (Linter.runRule tree rule) := by
  unfold Linter.runRule
  rcases rule.walk tree with ⟨e | u, walk⟩
  all_goals
    refine (LogsOfRun.logAll ?_).bind fun _ => ?_
    · intro r hr
      obtain ⟨event, -, rfl⟩ := List.mem_map.mp hr
      exact ofRun_event event
  · exact .throw _
  · exact .pure _

theorem logsOfRun_lint (tree : Node) (rules : Fields) (source : String) :
    LogsOfRun (Linter.lint tree rules source) := by
  have hall : LogsOfRun (Linter.setUpAll rules source) :=
    (LogsOfRun.mapM (logsOfRun_setUp source) rules).bind fun _ => .pure _
  exact hall.bind fun ready => (LogsOfRun.mapM (logsOfRun_runRule tree) ready).bind fun _ => .pure _

theorem ofRun_of_lint {rules : Fields} {log : Array Record}
    {result : Except LintFault (List Violation)}
    (h : (Linter.lint tree rules source).run.run #[] = (result, log)) :
    ∀ r ∈ log.toList, r.OfRun := by
  have hl := logsOfRun_lint tree rules source #[] (by simp)
  have hx : exec (Linter.lint tree rules source) #[] = (result, log) := h
  rw [hx] at hl
  intro r hr
  exact hl r (Array.mem_toList_iff.mp hr)

/-- Loading a configuration logs records of a run alone. -/
theorem ofRun_of_load {σ : Type} (host : Host (StateM σ)) (path : Path)
    (known : Option (List String)) (s : σ) :
    ∀ r ∈ (LintConfig.load host path known s).1.2, r.OfRun := by
  intro r hr
  simp only [LintConfig.load, bind, StateT.bind] at hr
  generalize host.readText path s = read at hr
  obtain ⟨text, s'⟩ := read
  simp only at hr
  cases h : LintConfig.parse path text with
  | error e =>
    rw [h] at hr
    cases hr
  | ok data =>
    rw [h] at hr
    rw [List.mem_singleton.mp hr]
    exact ofRun_of_channel covers_configChannel _

end TemplateLint
