import TemplateLint.Proofs.AcceptedSettings
import TemplateLint.Proofs.ConfigFiles

/-!
The names in a table of rules are checked when a configuration is taken, and once more when its rules
are set up. Main statement: both checks refuse the same tables, and no run of the program comes to
the second refusal. A setting that is not accepted stops the rules from being set up as well, with a
text about it unless an integer in it is too long to be written.
-/

namespace TemplateLint

open Linter Cli Cli.RunM

variable {σ : Type} {host : Host (StateM σ)} {logger : Log.Logger} {c : LintConfig}
  {rules before after : Fields} {name : String} {config : Value}

/-- A table holds names of rules alone, or there is a first name in it that is not one. -/
theorem Fields.registered_or_split (rules : Fields) :
    rules.Registered ∨ ∃ before name config after, rules = before ++ (name, config) :: after ∧
      Fields.Registered before ∧ name ∉ ruleNames := by
  induction rules with
  | nil => exact .inl nofun
  | cons entry rest ih =>
    by_cases hn : entry.1 ∈ ruleNames
    · rcases ih with hr | ⟨before, name, config, after, rfl, hb, hu⟩
      · exact .inl (List.forall_mem_cons.mpr ⟨hn, hr⟩)
      · exact .inr ⟨entry :: before, name, config, after, rfl,
          List.forall_mem_cons.mpr ⟨hn, hb⟩, hu⟩
    · exact .inr ⟨[], entry.1, entry.2, rest, rfl, nofun, hn⟩

namespace LintConfig

theorem ofFields_rules_of_registered (h : rules.Registered) (path : Option Path) :
    ofFields [("rules", .table rules)] (some ruleNames) path = .ok ⟨rules, path⟩ := by
  refine ofFields_eq_ok_iff.mpr ⟨rules, rfl, ?_, rfl⟩
  intro names hk name hn
  cases hk
  obtain ⟨entry, hm, rfl⟩ := List.mem_map.mp hn
  exact h entry hm

theorem ofFields_rules_of_unknown (h : unknownNames rules ruleNames ≠ []) (path : Option Path) :
    ofFields [("rules", .table rules)] (some ruleNames) path =
      .error (.unknownRules (unknownNames rules ruleNames) path) := by
  have hr : (Named.get? [("rules", Value.table rules)] "rules").getD (.table []) =
      .table rules := rfl
  simp [ofFields, hr, h]

end LintConfig

namespace Linter

theorem exec_setUp_unregistered (hn : name ∉ ruleNames) (source : String) (config : Value)
    (log : Array Log.Record) :
    exec (setUp source name config) log = (.error (.unknownRule name), log) := by
  simp [setUp, hn]

/-- Setting up the rules of a table ends at its first name that is not one of a rule, or before that
at a setting that is not accepted. -/
theorem exec_setUpAll_unregistered (hb : before.Registered) (hn : name ∉ ruleNames)
    (config : Value) (after : Fields) (source : String) (log : Array Log.Record) :
    (¬ before.Rejected ∧ (exec (setUpAll (before ++ (name, config) :: after) source) log).1 =
      .error (.unknownRule name)) ∨
    ∃ e, before.FirstRejected e ∧
      (exec (setUpAll (before ++ (name, config) :: after) source) log).1 =
        .error (.setting e) := by
  simp only [setUpAll, List.mapM_append, List.mapM_cons, bind_assoc, exec_bind]
  rcases exec_mapM_setUp_cases hb source log with ⟨ha, all, log', h⟩ | ⟨e, log', he, h⟩
  · left
    rw [h]
    simp [ha, exec_setUp_unregistered hn]
  · right
    rw [h]
    exact ⟨e, he, rfl⟩

end Linter

namespace Cli

/-- What escapes from linting is a setting that no text can be about, or the fault of a check. -/
def Outcome.IsForeseen (o : Outcome) : Prop :=
  ∀ fault, o = .escaped (.lint fault) →
    (∃ e, fault = .setting e ∧ e.text? = none) ∨ ∃ e, fault = .check e

theorem Outcome.isForeseen_setting {e : SettingError} (h : e.text? = none) :
    (Outcome.escaped (.lint (.setting e))).IsForeseen := by
  rintro _ ⟨⟩
  exact .inl ⟨e, rfl, h⟩

theorem Outcome.isForeseen_check (e : CheckFault) :
    (Outcome.escaped (.lint (.check e))).IsForeseen := by
  rintro _ ⟨⟩
  exact .inr ⟨e, rfl⟩

theorem stays_loadConfig (host : Host (StateM σ)) (logger : Log.Logger) (given : Given) :
    Stays (loadConfig host logger given) (fun c => c.rules.Registered)
      Outcome.IsForeseen := by
  unfold loadConfig
  cases given.path? with
  | none => exact .throw nofun
  | some path =>
    have hload : ∀ s, ∀ c, (LintConfig.load host path (some ruleNames) s).1.1 = .ok c →
        c.rules.Registered := by
      intro s c hc
      rw [LintConfig.load_fst] at hc
      obtain ⟨-, bytes, text, data, -, -, -, -, hk⟩ := LintConfig.ofRead_eq_ok_iff.mp hc
      exact fun entry hm => hk ruleNames rfl entry.1 (List.mem_map_of_mem hm)
    have hlift : Stays (ExceptT.lift (LintConfig.load host path (some ruleNames)))
        (fun loaded => ∀ c, loaded.1 = .ok c → c.rules.Registered)
        Outcome.IsForeseen := .lift hload
    refine hlift.bind ?_
    rintro ⟨loaded, records⟩ hr
    refine (stays_logAll host logger records _).bind fun _ _ => ?_
    rcases loaded with (e | _ | _ | n) | c
    · exact stays_fail host logger _ _ nofun
    · exact .throw nofun
    · exact .throw nofun
    · exact .throw nofun
    · exact .pure (hr c rfl)

theorem stays_loadTemplate (host : Host (StateM σ)) (logger : Log.Logger) (path : Path)
    (source : Given) :
    Stays (loadTemplate host logger path source) (fun _ => True) Outcome.IsForeseen := by
  refine (Stays.lift_any _).bind fun loaded _ => ?_
  split
  · exact .throw nofun
  · exact stays_fail host logger _ _ nofun
  · split
    · exact .stop nofun
    · refine (Stays.lift_any _).bind fun read _ => ?_
      cases read with
      | error e => exact stays_fail host logger _ _ nofun
      | ok text => exact .pure trivial

theorem stays_lintFile (hr : c.rules.Registered) (host : Host (StateM σ)) (logger : Log.Logger)
    (source : Given) (path : Path) :
    Stays (lintFile host logger c source path) (fun _ => True) Outcome.IsForeseen := by
  refine (stays_loadTemplate host logger path source).bind ?_
  rintro ⟨tree, text⟩ -
  have hx : ((lint tree c.rules text).run.run #[]).1 = result tree c.rules text := rfl
  generalize hrun : (lint tree c.rules text).run.run #[] = linted at hx
  obtain ⟨outcome, records⟩ := linted
  simp only [hrun]
  refine (stays_logAll host logger _ _).bind fun _ _ => ?_
  cases outcome with
  | ok violations =>
    exact (Stays.lift_any _).bind fun _ _ => .pure trivial
  | error e =>
    rcases result_cases hr tree text with ⟨-, hc⟩ | ⟨e', -, he⟩
    · obtain ⟨fault, rfl⟩ := hc e hx.symm
      exact .throw (Outcome.isForeseen_check fault)
    · rw [← hx] at he
      cases he
      exact stays_refuse host logger e' _ nofun Outcome.isForeseen_setting

theorem stays_lintFiles (host : Host (StateM σ)) (logger : Log.Logger) (r : Request) :
    Stays (lintFiles host logger r) Outcome.IsForeseen Outcome.IsForeseen := by
  refine (stays_loadConfig host logger r.config).bind fun c hr => ?_
  refine (Stays.mapM fun path _ => stays_lintFile hr host logger r.source path).bind fun _ _ => ?_
  exact (stays_logAll host logger _ _).bind fun _ _ => .pure nofun

theorem isForeseen_run (host : Host (StateM σ)) (arguments : List String) (s : σ) :
    (run host arguments s).1.IsForeseen := by
  rcases starts_or_not host arguments s with
    ⟨r, logger, s', hs⟩ | ⟨code, hu⟩ | ⟨flag, hn⟩ | ⟨e, he⟩
  · have hl := stays_lintFiles host logger r s'
    rw [run_of_starts hs]
    generalize exec (lintFiles host logger r) s' = reached at hl ⊢
    obtain ⟨o | o, s''⟩ := reached
    · exact hl
    · exact hl
  · rw [hu]
    nofun
  · rw [hn]
    nofun
  · rw [he]
    nofun

end Cli

open LintConfig in
/-- Both checks of the names of rules refuse the same tables. A table that the first one takes is set
up, and then linting ends at nothing but the fault of a check; or both end at its first setting that
is not accepted. A table that the first check refuses it refuses with all names of no rule, in
ascending order; setting the table up ends at the first such name, or before it at the first setting
that is not accepted. There is a text about such a setting unless it holds an integer that is too
long to be written. No run of the program ends at a name, and none at a setting that a text is
about. -/
theorem checks_of_rule_names_agree (rules : Fields) (path : Option Path) (source : String)
    (log : Array Log.Record) :
    ((rules.Registered ∧
        ofFields [("rules", .table rules)] (some ruleNames) path = .ok ⟨rules, path⟩ ∧
        ((¬ rules.Rejected ∧ (∃ ready, (exec (setUpAll rules source) log).1 = .ok ready) ∧
            ∀ tree fault, result tree rules source = .error fault → ∃ e, fault = .check e) ∨
          ∃ e, rules.FirstRejected e ∧ (exec (setUpAll rules source) log).1 = .error (.setting e) ∧
            ∀ tree, result tree rules source = .error (.setting e))) ∨
      ∃ before name config after names, rules = before ++ (name, config) :: after ∧
        Fields.Registered before ∧ name ∉ ruleNames ∧
        ofFields [("rules", .table rules)] (some ruleNames) path =
          .error (.unknownRules names path) ∧
        names.Pairwise (· < ·) ∧ (∀ n, n ∈ names ↔ n ∈ rules.names ∧ n ∉ ruleNames) ∧
        ((¬ Fields.Rejected before ∧
            (exec (setUpAll rules source) log).1 = .error (.unknownRule name)) ∨
          ∃ e, Fields.FirstRejected before e ∧
            (exec (setUpAll rules source) log).1 = .error (.setting e))) ∧
    (∀ e : SettingError, e.text? = none ↔
      ∃ n ∈ e.config.integers, Text.digitLimit < Json.digitCount n) ∧
    ∀ {σ : Type} (host : Host (StateM σ)) (arguments : List String) (s : σ) (fault : LintFault),
      (run host arguments s).1 = .escaped (.lint fault) →
        (∃ e, fault = .setting e ∧ e.text? = none) ∨ ∃ e, fault = .check e := by
  refine ⟨?_, fun e => e.text?_eq_none_iff, isForeseen_run⟩
  rcases rules.registered_or_split with hr | ⟨before, name, config, after, rfl, hb, hn⟩
  · left
    refine ⟨hr, ofFields_rules_of_registered hr path, ?_⟩
    rcases exec_setUpAll_cases hr source log with ⟨ha, ready, log', h⟩ | ⟨e, log', he, h⟩
    · left
      refine ⟨ha, ⟨ready, by rw [h]⟩, ?_⟩
      intro tree fault hf
      rcases result_cases hr tree source with ⟨-, hc⟩ | ⟨e, he, -⟩
      · exact hc fault hf
      · exact (ha he.rejected).elim
    · right
      refine ⟨e, he, by rw [h], ?_⟩
      intro tree
      rcases result_cases hr tree source with ⟨hn, -⟩ | ⟨e', he', hx⟩
      · exact (hn he.rejected).elim
      · rw [hx, he.eq he']
  · right
    have hm : name ∈ Named.names (before ++ (name, config) :: after) :=
      List.mem_map_of_mem (List.mem_append_right before List.mem_cons_self)
    have hu := List.ne_nil_of_mem (mem_unknownNames.mpr ⟨hm, hn⟩)
    exact ⟨before, name, config, after, _, rfl, hb, hn, ofFields_rules_of_unknown hu path,
      Text.pairwise_sortedNames _, fun _ => mem_unknownNames,
      exec_setUpAll_unregistered hb hn config after source log⟩

/-- A table that is taken, and that is not set up for want of a text about its one setting. -/
theorem setting_without_text_stops_set_up :
    LintConfig.ofFields [("rules", .table [(Rule.name, .int (16 ^ 3600))])] (some ruleNames) none =
        .ok ⟨[(Rule.name, .int (16 ^ 3600))], none⟩ ∧
      ∃ e, (exec (setUpAll [(Rule.name, .int (16 ^ 3600))] "") #[]).1 = .error (.setting e) ∧
        e.text? = none := by
  have hr : Fields.Registered [(Rule.name, .int (16 ^ 3600))] := by
    rintro _ (_ | ⟨_, ⟨⟩⟩)
    exact List.mem_singleton.mpr rfl
  refine ⟨LintConfig.ofFields_rules_of_registered hr none, _, rfl, ?_⟩
  exact SettingError.text?_eq_none_iff.mpr
    ⟨_, List.mem_singleton.mpr rfl, digitLimit_lt_digitCount⟩

end TemplateLint
