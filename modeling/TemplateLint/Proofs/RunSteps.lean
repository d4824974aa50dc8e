import TemplateLint.Cli.Run
import TemplateLint.Proofs.HostView
import TemplateLint.Proofs.RejectedSettings
import TemplateLint.Proofs.ViolationOrder

/-!
What the steps of a run give, and what they write to the output: loading the configuration, loading
a template with its source, and linting one file or several.
-/

namespace TemplateLint

open Cli

variable {σ α β : Type} {view : View σ} {d : Disk} {host : Host (StateM σ)}

/-- A line or a column in a report. -/
def positionText : Option Int → String
  | none => "?"
  | some n => toString n

/-- The record of a violation: path, line, column, message, and the rule in brackets. -/
def Violation.recordText (p : Path) (v : Violation) : String :=
  ":".intercalate [p.display, positionText v.line, positionText v.column,
    " " ++ v.message ++ " (" ++ v.rule ++ ")\n"]

theorem Cli.reportLine_eq (p : Path) (v : Violation) : reportLine p v = v.recordText p := by
  have joined (a b c d : String) :
    ":".intercalate [a, b, c, d] = a ++ ":" ++ b ++ ":" ++ c ++ ":" ++ d := rfl
  have position (n : Option Int) : n.elim "?" toString = positionText n := by cases n <;> rfl
  have space : ": " = ":" ++ " " := rfl
  rw [reportLine, Violation.recordText, joined, position, position, space]
  simp only [String.append_assoc]

theorem Linter.ascending_of_result {tree : Node} {rules : Fields} {source : String}
    {vs : List Violation} (h : result tree rules source = .ok vs) : Violation.Ascending vs := by
  unfold result lint at h
  simp only [exec_bind] at h
  split at h
  · split at h
    · cases h
      exact Violation.ascending_sort _
    · cases h
  · cases h

namespace Disk

/-- The configuration of a run, if it can be loaded. -/
def config? (d : Disk) (given : Given) : Option LintConfig :=
  given.path?.bind fun p => (d.readConfig p).toOption

/-- The template in a file, if it can be loaded. -/
def template? (d : Disk) (p : Path) : Option Node :=
  (d.readTemplate p).toOption

/-- The source of a template, if it can be read. -/
def source? (d : Disk) (p : Path) (source : Given) : Option String :=
  if source = .nothing then none else (d.readSource p source.path?).toOption

/-- The violations in a file, if it can be linted. -/
def violations? (d : Disk) (c : LintConfig) (source : Given) (p : Path) : Option (List Violation) := do
  let tree ← d.template? p
  let s ← d.source? p source
  (Linter.result tree c.rules s).toOption

/-- A template and its source can be loaded. -/
def Loads (d : Disk) (source : Given) (p : Path) : Prop :=
  (d.template? p).isSome ∧ (d.source? p source).isSome

/-- A file cannot be loaded, or a setting of a rule is not accepted when it is linted. -/
def Fails (d : Disk) (c : LintConfig) (source : Given) (p : Path) : Prop :=
  ¬ d.Loads source p ∨ ∃ tree s e, d.template? p = some tree ∧ d.source? p source = some s ∧
    Linter.result tree c.rules s = .error (.setting e)

/-- Linting a file comes to its end. -/
def Lints (d : Disk) (c : LintConfig) (source : Given) (p : Path) : Prop :=
  (d.violations? c source p).isSome

def count (d : Disk) (c : LintConfig) (source : Given) (p : Path) : Nat :=
  ((d.violations? c source p).getD []).length

/-- The reports of the violations in a file. -/
def report (d : Disk) (c : LintConfig) (source : Given) (p : Path) : String :=
  String.join (((d.violations? c source p).getD []).map (Violation.recordText p))

/-- The reports of the violations in some files. -/
def reports (d : Disk) (c : LintConfig) (source : Given) (files : List Path) : String :=
  String.join (files.map (d.report c source))

/-- The exit code of a run in which every file is linted. -/
def exitCode (d : Disk) (c : LintConfig) (source : Given) (files : List Path) : Nat :=
  if ∀ q ∈ files, d.violations? c source q = some [] then 0 else 1

variable {c : LintConfig} {source : Given} {p : Path} {files : List Path} {tree : Node} {s : String}

theorem template?_of_text {v : Value} {body : List Node} {names : List String}
    {loc : Option Location} (ht : d.readText p = .ok s) (hr : Json.read s = .ok v)
    (hd : Node.decode v = .ok (.template body names loc)) :
    d.template? p = some (.template body names loc) := by
  rw [template?, readTemplate, ht]
  simp only [Except.mapError, Except.bind, Template.ofText, bind, hr, hd]
  rfl

theorem violations?_of_loaded (ht : d.template? p = some tree) (hs : d.source? p source = some s) :
    d.violations? c source p = (Linter.result tree c.rules s).toOption := by
  simp [violations?, ht, hs]

theorem fails_iff_of_loaded (ht : d.template? p = some tree) (hs : d.source? p source = some s) :
    d.Fails c source p ↔ ∃ e, Linter.result tree c.rules s = .error (.setting e) := by
  simp [Fails, Loads, ht, hs]

theorem Lints.loads (h : d.Lints c source p) : d.Loads source p := by
  unfold Lints violations? at h
  unfold Loads
  cases ht : d.template? p with
  | none => simp [ht] at h
  | some tree =>
    cases hs : d.source? p source with
    | none => simp [ht, hs] at h
    | some s => exact ⟨rfl, rfl⟩

theorem Lints.not_fails (h : d.Lints c source p) : ¬ d.Fails c source p := by
  rintro (hn | ⟨tree, s, e, ht, hs, he⟩)
  · exact hn h.loads
  · rw [Lints, violations?_of_loaded ht hs, he] at h
    cases h

/-- A file fails when it does not load, or else when the configuration holds a setting that is not
accepted, whatever the file holds. -/
theorem fails_iff (hr : c.rules.Registered) :
    d.Fails c source p ↔ ¬ d.Loads source p ∨ c.rules.Rejected := by
  unfold Fails Loads
  cases ht : d.template? p with
  | none => simp
  | some tree =>
    cases hs : d.source? p source with
    | none => simp
    | some s => simp [Linter.result_eq_setting_iff hr tree s]

theorem ascending_of_violations? {vs : List Violation} (h : d.violations? c source p = some vs) :
    Violation.Ascending vs := by
  unfold violations? at h
  obtain ⟨tree, -, h⟩ := Option.bind_eq_some_iff.mp h
  obtain ⟨s, -, h⟩ := Option.bind_eq_some_iff.mp h
  cases hr : Linter.result tree c.rules s with
  | error e =>
    rw [hr] at h
    cases h
  | ok ws =>
    rw [hr] at h
    cases h
    exact Linter.ascending_of_result hr

theorem registered_of_config? {given : Given} (h : d.config? given = some c) :
    c.rules.Registered := by
  unfold config? readConfig at h
  obtain ⟨p, -, h⟩ := Option.bind_eq_some_iff.mp h
  cases hp : LintConfig.parse p (d.readText p) with
  | error e =>
    rw [hp] at h
    cases h
  | ok data =>
    rw [hp] at h
    cases hf : LintConfig.ofFields data (some Linter.ruleNames) (some p) with
    | error e =>
      simp only [Except.bind, hf] at h
      cases h
    | ok c' =>
      simp only [Except.bind, hf] at h
      cases h
      exact LintConfig.registered_of_ofFields hf

theorem count_eq_zero_iff (h : d.Lints c source p) :
    d.count c source p = 0 ↔ d.violations? c source p = some [] := by
  obtain ⟨vs, hv⟩ := Option.isSome_iff_exists.mp h
  rw [count, hv, Option.getD_some, List.length_eq_zero_iff, Option.some.injEq]

theorem exitCode_eq (h : ∀ q ∈ files, d.Lints c source q) :
    d.exitCode c source files =
      if (files.map (d.count c source)).foldl (· + ·) 0 = 0 then exitClean else exitViolations := by
  have hz : (files.map (d.count c source)).foldl (· + ·) 0 = 0 ↔
      ∀ q ∈ files, d.violations? c source q = some [] := by
    rw [← List.sum_eq_foldl_nat, List.sum_eq_zero_iff_forall_eq_nat, List.forall_mem_map]
    exact forall₂_congr fun q hq => count_eq_zero_iff (h q hq)
  simp only [exitCode, hz, exitClean, exitViolations]

end Disk

namespace Cli

open Log (Logger Record)

variable {logger : Logger} {c : LintConfig} {source : Given} {p : Path}

namespace RunM

/-- A part of a run goes on with a value or ends with an outcome, and writes a text to the
output. -/
def Gives (view : View σ) (d : Disk) (x : RunM (StateM σ) α) (result : Except Outcome α)
    (text : String) : Prop :=
  Does view d x.run result text

namespace Gives

variable {x : RunM (StateM σ) α} {f : α → RunM (StateM σ) β} {a : α} {o : Outcome}
  {result : Except Outcome β} {t u : String}

theorem exists_exec {result : Except Outcome α} {s : σ} (h : Gives view d x result t)
    (hs : view.disk s = d) : ∃ s', exec x s = (result, s') ∧ view.Writes t s s' := by
  obtain ⟨ha, hw⟩ := h s hs
  exact ⟨_, Prod.ext ha rfl, hw⟩

theorem pure (a : α) : Gives view d (Pure.pure a) (.ok a) "" :=
  Does.pure _

theorem throw (o : Outcome) : Gives view d (MonadExcept.throw o : RunM (StateM σ) α) (.error o) "" :=
  Does.pure _

theorem lift {x : StateM σ α} (h : Does view d x a t) :
    Gives view d (ExceptT.lift x) (.ok a) t := by
  intro s hs
  obtain ⟨ha, hw⟩ := h s hs
  exact ⟨congrArg Except.ok ha, hw⟩

/-- What follows a step that does not show, and does not depend on what the step gives. -/
theorem lift_any {x : StateM σ α} (h : ∀ s, view.Writes "" s (x s).2)
    (h' : ∀ a, Gives view d (f a) result t) : Gives view d (ExceptT.lift x >>= f) result t :=
  Does.bind_any h h'

theorem bind (h : Gives view d x (.ok a) t) (h' : Gives view d (f a) result u) :
    Gives view d (x >>= f) result (t ++ u) := by
  have hf : Does view d (ExceptT.bindCont f (.ok a)) result u := h'
  exact Does.bind h hf

theorem quietly (h : Gives view d x (.ok a) "") (h' : Gives view d (f a) result t) :
    Gives view d (x >>= f) result t := by
  have hb := h.bind h'
  rwa [String.empty_append] at hb

theorem andQuietly (h : Gives view d x (.ok a) t) (h' : Gives view d (f a) result "") :
    Gives view d (x >>= f) result t := by
  have hb := h.bind h'
  rwa [String.append_empty] at hb

theorem stop (h : Gives view d x (.error o) t) : Gives view d (x >>= f) (.error o) t := by
  have hf : Does view d (ExceptT.bindCont f (.error o)) (.error o) "" := Does.pure _
  have hb := Does.bind h hf
  rwa [String.append_empty] at hb

end Gives

end RunM

open RunM

/-- A run that does not go on is unusable, or something escapes. -/
def Outcome.IsFailure (o : Outcome) : Prop :=
  o = .exit exitUnusable ∨ ∃ fault, o = .escaped fault

theorem Outcome.IsFailure.eq_exit {o : Outcome} (h : o.IsFailure)
    (he : ∀ fault, o ≠ .escaped fault) : o = .exit exitUnusable := by
  rcases h with h | ⟨fault, h⟩
  · exact h
  · exact (he fault h).elim

theorem gives_logAll (hs : host.Shows view) (hl : logger.ConsoleOnly) (records : List Record) :
    Gives view d (logAll host logger records) (.ok ()) "" :=
  .lift (.forM_quietly fun r _ => hl.does_log hs r)

theorem gives_fail (hs : host.Shows view) (hl : logger.ConsoleOnly) (message : Wording → String) :
    Gives view d (fail host logger message : RunM (StateM σ) α) (.error (.exit exitUnusable)) "" :=
  .lift_any hs.wording fun _ => (gives_logAll hs hl _).quietly (.throw _)

/-- How a run ends at a setting that is not accepted. -/
def refusal (e : SettingError) : Outcome :=
  if e.text?.isSome then .exit exitUnusable else .escaped (.lint (.setting e))

theorem refusal_isFailure (e : SettingError) : (refusal e).IsFailure := by
  unfold refusal
  split
  · exact .inl rfl
  · exact .inr ⟨_, rfl⟩

theorem gives_refuse (hs : host.Shows view) (hl : logger.ConsoleOnly) (e : SettingError) :
    Gives view d (refuse host logger e : RunM (StateM σ) α) (.error (refusal e)) "" := by
  unfold refuse refusal
  cases e.text? with
  | some message => exact gives_fail hs hl fun _ => message
  | none => exact .throw _

theorem gives_loadConfig (hs : host.Shows view) (hl : logger.ConsoleOnly) (given : Given) :
    match d.config? given with
    | some c => Gives view d (loadConfig host logger given) (.ok c) ""
    | none => ∃ o : Outcome, o.IsFailure ∧
      Gives view d (loadConfig host logger given) (.error o) "" := by
  unfold Disk.config? loadConfig
  cases given.path? with
  | none => exact ⟨_, .inr ⟨_, rfl⟩, .throw _⟩
  | some p =>
    obtain ⟨records, hc⟩ := hs.does_loadConfig (d := d) p
    simp only [Option.bind_some]
    cases hp : d.readConfig p with
    | ok c =>
      rw [hp] at hc
      exact (Gives.lift hc).quietly ((gives_logAll hs hl records).quietly (.pure c))
    | error e =>
      rw [hp] at hc
      cases e with
      | config e =>
        exact ⟨_, .inl rfl,
          (Gives.lift hc).quietly ((gives_logAll hs hl records).quietly (gives_fail hs hl _))⟩
      | _ =>
        exact ⟨_, .inr ⟨_, rfl⟩,
          (Gives.lift hc).quietly ((gives_logAll hs hl records).quietly (.throw _))⟩

theorem gives_loadConfig_of_some {given : Given} (hs : host.Shows view) (hl : logger.ConsoleOnly)
    (hc : d.config? given = some c) : Gives view d (loadConfig host logger given) (.ok c) "" := by
  have hg := gives_loadConfig (d := d) hs hl given
  rwa [hc] at hg

/-- A template that cannot be loaded makes the run unusable, unless a position in it is infinite. -/
theorem gives_loadTemplate_of_fault {e : TemplateFault} (hs : host.Shows view)
    (hl : logger.ConsoleOnly) (hp : d.readTemplate p = .error e)
    (he : e ≠ .decode .infinitePosition) :
    Gives view d (loadTemplate host logger p source) (.error (.exit exitUnusable)) "" := by
  have ht := hs.does_load (d := d) p
  rw [hp] at ht
  refine (Gives.lift ht).quietly ?_
  cases e with
  | decode e =>
    cases e with
    | infinitePosition => exact (he rfl).elim
    | _ => exact gives_fail hs hl _
  | _ => exact gives_fail hs hl _

theorem gives_loadTemplate (hs : host.Shows view) (hl : logger.ConsoleOnly) (p : Path)
    (source : Given) :
    (∃ tree s, d.template? p = some tree ∧ d.source? p source = some s ∧
      Gives view d (loadTemplate host logger p source) (.ok (tree, s)) "") ∨
    (¬ d.Loads source p ∧ ∃ o : Outcome, o.IsFailure ∧
      Gives view d (loadTemplate host logger p source) (.error o) "") := by
  have ht := hs.does_load (d := d) p
  cases hp : d.readTemplate p with
  | error e =>
    have hn : ¬ d.Loads source p := by simp [Disk.Loads, Disk.template?, hp, Except.toOption]
    refine .inr ⟨hn, ?_⟩
    by_cases he : e = .decode .infinitePosition
    · rw [hp, he] at ht
      exact ⟨_, .inr ⟨_, rfl⟩, (Gives.lift ht).quietly (.throw _)⟩
    · exact ⟨_, .inl rfl, gives_loadTemplate_of_fault hs hl hp he⟩
  | ok tree =>
    rw [hp] at ht
    unfold Disk.Loads Disk.template? Disk.source? loadTemplate
    rw [hp]
    by_cases hn : source = .nothing
    · refine .inr ⟨by simp [hn], .escaped (.noFile .source), .inr ⟨_, rfl⟩, ?_⟩
      refine (Gives.lift ht).quietly ?_
      simp only [hn, if_true]
      exact Gives.stop (.throw _)
    · have hread := hs.does_source (d := d) p source.path?
      rw [if_neg hn]
      cases hr : d.readSource p source.path? with
      | error e =>
        rw [hr] at hread
        have hu : ¬ ((some tree).isSome ∧ (none : Option String).isSome) := by simp
        refine .inr ⟨hu, _, .inl rfl, (Gives.lift ht).quietly ?_⟩
        simp only [hn, if_false]
        exact (Gives.lift hread).quietly (gives_fail hs hl _)
      | ok s =>
        rw [hr] at hread
        refine .inl ⟨tree, s, rfl, rfl, (Gives.lift ht).quietly ?_⟩
        simp only [hn, if_false]
        exact (Gives.lift hread).quietly (.pure _)

theorem does_writeReports (hs : host.Shows view) (p : Path) (vs : List Violation) :
    Does view d (vs.forM fun v => host.writeOut (reportLine p v)) ()
      (String.join (vs.map (Violation.recordText p))) := by
  refine .forM fun v _ => ?_
  rw [← reportLine_eq]
  exact hs.does_writeOut _

/-- What linting a file gives once its template and its source are loaded. -/
theorem gives_lintFile_of_loaded {tree : Node} {s : String} (hs : host.Shows view)
    (hl : logger.ConsoleOnly)
    (hg : Gives view d (loadTemplate host logger p source) (.ok (tree, s)) "") :
    match Linter.result tree c.rules s with
    | .ok vs => Gives view d (lintFile host logger c source p) (.ok vs.length)
      (String.join (vs.map (Violation.recordText p)))
    | .error (.setting e) =>
      Gives view d (lintFile host logger c source p) (.error (refusal e)) ""
    | .error e =>
      Gives view d (lintFile host logger c source p) (.error (.escaped (.lint e))) "" := by
  have hx : Linter.result tree c.rules s = ((Linter.lint tree c.rules s).run.run #[]).1 := rfl
  unfold lintFile
  generalize hrun : (Linter.lint tree c.rules s).run.run #[] = linted at hx
  obtain ⟨result, records⟩ := linted
  rw [hx]
  cases result with
  | ok vs =>
    refine hg.quietly ?_
    simp only [hrun]
    exact (gives_logAll hs hl _).quietly ((Gives.lift (does_writeReports hs p vs)).andQuietly
      (.pure _))
  | error e =>
    cases e with
    | setting e =>
      refine hg.quietly ?_
      simp only [hrun]
      exact (gives_logAll hs hl _).quietly (gives_refuse hs hl e)
    | _ =>
      refine hg.quietly ?_
      simp only [hrun]
      exact (gives_logAll hs hl _).quietly (.throw _)

/-- A file that is linted has its reports written. At any other file the run ends without a word
about it in the output; if nothing escapes there, the file is one that fails. -/
theorem gives_lintFile (hs : host.Shows view) (hl : logger.ConsoleOnly) (c : LintConfig)
    (source : Given) (p : Path) :
    (d.Lints c source p ∧ Gives view d (lintFile host logger c source p)
      (.ok (d.count c source p)) (d.report c source p)) ∨
    (¬ d.Lints c source p ∧ ∃ o : Outcome, o.IsFailure ∧
      (d.Fails c source p ∨ ∃ fault, o = .escaped fault) ∧
      Gives view d (lintFile host logger c source p) (.error o) "") := by
  rcases gives_loadTemplate (d := d) hs hl p source with ⟨tree, s, ht, hsrc, hg⟩ | ⟨hn, o, ho, hg⟩
  · have hv := Disk.violations?_of_loaded (c := c) ht hsrc
    have hf := Disk.fails_iff_of_loaded (c := c) ht hsrc
    have hlint := gives_lintFile_of_loaded (c := c) hs hl hg
    cases hx : Linter.result tree c.rules s with
    | ok vs =>
      rw [hx] at hv hlint
      refine .inl ⟨by rw [Disk.Lints, hv]; rfl, ?_⟩
      rw [Disk.count, Disk.report, hv]
      exact hlint
    | error e =>
      rw [hx] at hv hlint
      have hn : ¬ d.Lints c source p := by
        rw [Disk.Lints, hv]
        exact Bool.false_ne_true
      refine .inr ⟨hn, ?_⟩
      cases e with
      | setting e => exact ⟨_, refusal_isFailure e, .inl (hf.mpr ⟨e, hx⟩), hlint⟩
      | _ => exact ⟨_, .inr ⟨_, rfl⟩, .inr ⟨_, rfl⟩, hlint⟩
  · exact .inr ⟨fun h => hn h.loads, o, ho, .inl (.inl hn), hg.stop⟩

theorem gives_lintFile_of_lints (hs : host.Shows view) (hl : logger.ConsoleOnly)
    (h : d.Lints c source p) :
    Gives view d (lintFile host logger c source p) (.ok (d.count c source p))
      (d.report c source p) := by
  rcases gives_lintFile (d := d) hs hl c source p with ⟨-, hg⟩ | ⟨hn, -⟩
  · exact hg
  · exact (hn h).elim

/-- The files are linted one after the other, up to the first one at which the run ends. -/
theorem gives_mapM_lintFile (hs : host.Shows view) (hl : logger.ConsoleOnly) (c : LintConfig)
    (source : Given) (files : List Path) :
    ((∀ q ∈ files, d.Lints c source q) ∧
      Gives view d (files.mapM (lintFile host logger c source))
        (.ok (files.map (d.count c source))) (d.reports c source files)) ∨
    ∃ before p after, ∃ o : Outcome, files = before ++ p :: after ∧
      (∀ q ∈ before, d.Lints c source q) ∧ o.IsFailure ∧
      (d.Fails c source p ∨ ∃ fault, o = .escaped fault) ∧
      Gives view d ((before ++ [p]).mapM (lintFile host logger c source)) (.error o)
        (d.reports c source before) := by
  induction files with
  | nil => exact .inl ⟨List.forall_mem_nil _, .pure []⟩
  | cons p rest ih =>
    rcases gives_lintFile (d := d) hs hl c source p with ⟨hp, hg⟩ | ⟨-, o, ho, hf, hg⟩
    · rcases ih with ⟨hrest, hgr⟩ | ⟨before, q, after, o, rfl, hb, ho, hf, hgr⟩
      · left
        refine ⟨List.forall_mem_cons.mpr ⟨hp, hrest⟩, ?_⟩
        rw [List.mapM_cons, Disk.reports, List.map_cons, List.map_cons, String.join_cons]
        exact hg.bind (hgr.andQuietly (.pure _))
      · right
        refine ⟨p :: before, q, after, o, rfl, List.forall_mem_cons.mpr ⟨hp, hb⟩, ho, hf, ?_⟩
        rw [List.cons_append, List.mapM_cons, Disk.reports, List.map_cons, String.join_cons]
        exact hg.bind hgr.stop
    · right
      refine ⟨[], p, rest, o, rfl, List.forall_mem_nil _, ho, hf, ?_⟩
      rw [List.nil_append, List.mapM_cons]
      exact hg.stop

/-- What follows the file at which a run ends does not matter. -/
theorem exec_mapM_of_prefix {f : Path → RunM (StateM σ) Nat} {before after : List Path} {o : Outcome}
    {s s' : σ} (h : exec ((before ++ [p]).mapM f) s = (.error o, s')) :
    exec ((before ++ p :: after).mapM f) s = (.error o, s') := by
  rw [List.append_cons, List.mapM_append, exec_bind, h]

end Cli

end TemplateLint
