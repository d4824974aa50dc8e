import TemplateLint.Proofs.CommandRun
import TemplateLint.Proofs.ErrorStream
import TemplateLint.Proofs.LogSessions
import TemplateLint.Proofs.RunRecords

/-!
Runs that differ in how much they tell. Main statement: a run that is asked for all records does the
same as one that is not, and its error stream has the debug records between those that both have.
-/

namespace TemplateLint

open Log

variable {records : List Record} {r : Record} {stamp : String}

/-- The records that a run tells on the error stream. -/
def heard (verbose : Bool) (records : List Record) : List Record :=
  if verbose then records else records.filter (warning ≤ ·.level)

@[simp] theorem heard_nil (verbose : Bool) : heard verbose [] = [] := by
  cases verbose <;> rfl

theorem heard_append (verbose : Bool) (records more : List Record) :
    heard verbose (records ++ more) = heard verbose records ++ heard verbose more := by
  cases verbose with
  | true => rfl
  | false => exact List.filter_append records more

namespace Cli

open World RunM

variable {α β γ : Type} {w : World} {req : Request}

/-- The log settings of a request, when it is asked for all records or not. -/
def settingsOf (req : Request) (verbose : Bool) : Settings :=
  logSettings { req with verbose }

theorem heard_singleton (hr : r.OfRun) (req : Request) (verbose : Bool) :
    heard verbose [r] = if (settingsOf req verbose).consoleLevel ≤ r.level then [r] else [] := by
  have hc : (settingsOf req verbose).consoleLevel = if verbose then debug else warning := rfl
  rw [hc]
  cases verbose with
  | true => rcases hr.level with h | h <;> simp [heard, h, debug, error]
  | false => rcases hr.level with h | h <;> simp [heard, h, debug, warning, error]

/-- A log file is sent all records, and without one the logger takes what the console takes. -/
theorem settingsOf_level (req : Request) (verbose : Bool) : (settingsOf req verbose).level =
    if req.logFile.isAbsent then (settingsOf req verbose).consoleLevel else debug := rfl

theorem settingsOf_level_pos (req : Request) (verbose : Bool) :
    0 < (settingsOf req verbose).level := by
  have hc : (settingsOf req verbose).consoleLevel = if verbose then debug else warning := rfl
  rw [settingsOf_level, hc]
  split
  · cases verbose <;> decide
  · decide

theorem sent_default {s : Settings} (h : s.format = defaultFormat) (current : Nat) (r : Record)
    (sink : Sink) : s.sent current { stamp } r sink = (sink, r.line stamp) := by
  rw [Settings.sent, Settings.written?_default h]
  rfl

/-- What the log of a request does with a record of a run: the console takes it if it is heard,
and a log file takes it in any case. -/
theorem deliveries_settingsOf (hr : r.OfRun) (req : Request) (verbose : Bool) :
    ((settingsOf req verbose).logger 0).deliveries 0 { stamp } r =
      (heard verbose [r]).map (fun r => (Sink.console 0, r.line stamp)) ++
        req.logFile.path?.toList.map fun p => (Sink.file p, r.line stamp) := by
  have hfile : (settingsOf req verbose).logFile = req.logFile.path? := rfl
  have hdebug : debug ≤ r.level := by rcases hr.level with h | h <;> simp [h, debug, error]
  have hconsole : ((settingsOf req verbose).level ≤ r.level ∧
      (settingsOf req verbose).consoleLevel ≤ r.level) ↔
      (settingsOf req verbose).consoleLevel ≤ r.level := by
    rw [settingsOf_level]
    split
    · exact and_self_iff
    · exact and_iff_right hdebug
  rw [Settings.deliveries_logger (settingsOf_level_pos req verbose) hr.channel,
    heard_singleton hr req, hfile]
  simp only [Settings.ConsoleTakes, Settings.FileTakes, hconsole,
    sent_default (s := settingsOf req verbose) rfl]
  congr 1
  · split <;> rfl
  · cases hg : req.logFile with
    | path p =>
      have hl : (settingsOf req verbose).level = debug := by rw [settingsOf_level, hg]; rfl
      have hf : (settingsOf req verbose).fileLevel = debug := rfl
      simp [Given.path?, hl, hf, hdebug]
    | _ => rfl

/-- Logging a record of a run adds it to the log file, and to the error stream if it is heard. -/
theorem log_settingsOf (hr : r.OfRun) (req : Request) (verbose : Bool) (w : World) (err : String) :
    ((settingsOf req verbose).logger 0).log World.host r { w with err } =
      ((), { w.toLogFile req.logFile.path? (r.line w.stamp) with
        err := err ++ linesOf w.stamp (heard verbose [r]) }) := by
  have hline : err ++ linesOf w.stamp [r] = err ++ r.line w.stamp := by simp [linesOf]
  have hnone : err ++ linesOf w.stamp [] = err := String.append_empty
  have hstamp : World.host.stamp { w with err } = (w.stamp, { w with err }) := rfl
  simp only [Logger.log, bind, StateT.bind, hstamp]
  rw [deliveries_settingsOf hr, heard_singleton hr req]
  cases req.logFile.path? with
  | none =>
    split
    · rw [hline]
      rfl
    · rw [hnone]
      rfl
  | some p =>
    split
    · rw [hline]
      exact congrArg ((), ·) (append_err w p _ _)
    · rw [hnone]
      exact congrArg ((), ·) (append_err w p _ _)

namespace RunM

/-- A part of a run does the same whether all records are asked for or not, and tells the same
records as far as they are heard. -/
def Tells (x : Bool → RunM (StateM World) α) : Prop :=
  ∀ w : World, ∃ (result : Except Outcome α) (w' : World) (records : List Record),
    w'.stamp = w.stamp ∧ (∀ r ∈ records, r.OfRun) ∧ ∀ verbose err, exec (x verbose) { w with err } =
      (result, { w' with err := err ++ linesOf w.stamp (heard verbose records) })

namespace Tells

variable {x : Bool → RunM (StateM World) α} {f : Bool → α → RunM (StateM World) β}

theorem of_same {x : RunM (StateM World) α} {result : Except Outcome α}
    (h : ∀ w, exec x w = (result, w)) : Tells fun _ => x := by
  intro w
  refine ⟨result, w, [], rfl, nofun, ?_⟩
  intro verbose err
  rw [h, heard_nil, linesOf_nil, String.append_empty]

theorem pure (a : α) : Tells fun _ => (Pure.pure a : RunM (StateM World) α) :=
  .of_same fun _ => rfl

theorem throw (o : Outcome) : Tells fun _ => (MonadExcept.throw o : RunM (StateM World) α) :=
  .of_same fun _ => rfl

theorem stop (o : Outcome) : Tells fun verbose => MonadExcept.throw o >>= f verbose :=
  fun w => throw o w

theorem bind (h : Tells x) (h' : ∀ a, Tells fun verbose => f verbose a) :
    Tells fun verbose => x verbose >>= f verbose := by
  intro w
  obtain ⟨result, w', records, hstamp, hof, hx⟩ := h w
  cases result with
  | error o =>
    refine ⟨.error o, w', records, hstamp, hof, ?_⟩
    intro verbose err
    rw [exec_bind, hx]
  | ok a =>
    obtain ⟨result, w'', more, hstamp', hof', hf⟩ := h' a w'
    refine ⟨result, w'', records ++ more, hstamp'.trans hstamp,
      List.forall_mem_append.mpr ⟨hof, hof'⟩, ?_⟩
    intro verbose err
    rw [exec_bind, hx]
    simp only
    rw [hf, hstamp, heard_append, linesOf_append, String.append_assoc]

/-- What follows a part of a run that leaves the error stream, for what that part can give. -/
theorem lift_bind {x : StateM World α} (good : α → Prop) (h : LeavesErr x) (hg : ∀ w, good (x w).1)
    (h' : ∀ a, good a → Tells fun verbose => f verbose a) :
    Tells fun verbose => ExceptT.lift x >>= f verbose := by
  intro w
  obtain ⟨hstamp, hx⟩ := h w
  obtain ⟨result, w', records, hstamp', hof, hf⟩ := h' _ (hg w) (x w).2
  refine ⟨result, w', records, hstamp'.trans hstamp, hof, ?_⟩
  intro verbose err
  rw [exec_bind, exec_lift, hx, ← hstamp]
  exact hf verbose err

theorem lift_any {x : StateM World α} (h : LeavesErr x)
    (h' : ∀ a, Tells fun verbose => f verbose a) :
    Tells fun verbose => ExceptT.lift x >>= f verbose :=
  lift_bind (fun _ => True) h (fun _ => trivial) fun a _ => h' a

theorem mapM {g : Bool → γ → RunM (StateM World) α} (h : ∀ c, Tells fun verbose => g verbose c)
    (xs : List γ) : Tells fun verbose => xs.mapM (g verbose) := by
  induction xs with
  | nil => exact .pure []
  | cons c rest ih =>
    simp only [List.mapM_cons]
    exact (h c).bind fun _ => ih.bind fun _ => .pure _

end Tells

end RunM

theorem tells_log (hr : r.OfRun) (req : Request) : Tells fun verbose =>
    ExceptT.lift (((settingsOf req verbose).logger 0).log World.host r) := by
  intro w
  refine ⟨.ok (), _, [r], toLogFile_stamp w req.logFile.path? (r.line w.stamp),
    List.forall_mem_singleton.mpr hr, ?_⟩
  intro verbose err
  rw [exec_lift, log_settingsOf hr]

theorem tells_logAll (h : ∀ r ∈ records, r.OfRun) (req : Request) : Tells fun verbose =>
    logAll World.host ((settingsOf req verbose).logger 0) records := by
  induction records with
  | nil => exact .pure ()
  | cons r rest ih =>
    obtain ⟨hr, hrest⟩ := List.forall_mem_cons.mp h
    exact (tells_log hr req).bind fun _ => ih hrest

theorem tells_fail (message : Wording → String) (req : Request) : Tells fun verbose =>
    (fail World.host ((settingsOf req verbose).logger 0) message : RunM (StateM World) α) := by
  refine .lift_any .wording fun wording => ?_
  have hr : (errorRecord (message wording)).OfRun := ⟨covers_rootChannel, .inr rfl⟩
  exact (tells_logAll (List.forall_mem_singleton.mpr hr) req).bind fun _ => .throw _

theorem tells_refuse (e : SettingError) (req : Request) : Tells fun verbose =>
    (refuse World.host ((settingsOf req verbose).logger 0) e : RunM (StateM World) α) := by
  unfold refuse
  cases e.text? with
  | some message => exact tells_fail (fun _ => message) req
  | none => exact .throw _

theorem tells_loadConfig (given : Given) (req : Request) : Tells fun verbose =>
    loadConfig World.host ((settingsOf req verbose).logger 0) given := by
  unfold loadConfig
  cases given.path? with
  | none => exact .throw _
  | some p =>
    refine .lift_bind (fun loaded => ∀ r ∈ loaded.2, r.OfRun) (LeavesErr.loadConfig p _)
      (ofRun_of_load World.host p _) ?_
    rintro ⟨loaded, records⟩ hrecords
    refine (tells_logAll hrecords req).bind fun _ => ?_
    cases loaded with
    | ok config => exact .pure config
    | error e =>
      cases e with
      | config e => exact tells_fail _ req
      | _ => exact .throw _

theorem tells_loadTemplate (p : Path) (source : Given) (req : Request) : Tells fun verbose =>
    loadTemplate World.host ((settingsOf req verbose).logger 0) p source := by
  unfold loadTemplate
  refine .lift_any (LeavesErr.loadTemplate p) fun loaded => ?_
  cases loaded with
  | error e =>
    cases e with
    | decode e =>
      cases e with
      | infinitePosition => exact .throw _
      | _ => exact tells_fail _ req
    | _ => exact tells_fail _ req
  | ok tree =>
    by_cases hn : source = .nothing
    · simp only [hn, if_true]
      exact .stop _
    · simp only [hn, if_false]
      refine .lift_any (LeavesErr.loadSource p source.path?) fun loaded => ?_
      cases loaded with
      | error e => exact tells_fail _ req
      | ok s => exact .pure (tree, s)

theorem tells_lintFile (config : LintConfig) (source : Given) (p : Path) (req : Request) :
    Tells fun verbose =>
      lintFile World.host ((settingsOf req verbose).logger 0) config source p := by
  refine (tells_loadTemplate p source req).bind ?_
  rintro ⟨tree, s⟩
  simp only
  rcases hl : (Linter.lint tree config.rules s).run.run #[] with ⟨result, log⟩
  refine (tells_logAll (ofRun_of_lint hl) req).bind fun _ => ?_
  cases result with
  | ok vs => exact .lift_any (.forM (fun _ => .writeOut _) vs) fun _ => .pure _
  | error e =>
    cases e with
    | setting e => exact tells_refuse e req
    | _ => exact .throw _

theorem tells_lintFiles (req : Request) : Tells fun verbose =>
    lintFiles World.host ((settingsOf req verbose).logger 0) { req with verbose } := by
  refine (tells_loadConfig req.config req).bind fun config => ?_
  refine (Tells.mapM (fun p => tells_lintFile config req.source p req) req.files).bind ?_
  intro counts
  have hr : (summary req.files.length (counts.foldl (· + ·) 0)).OfRun :=
    ofRun_of_channel covers_rootChannel _
  exact (tells_logAll (List.forall_mem_singleton.mpr hr) req).bind fun _ => .pure _

theorem configure_settingsOf (req : Request) (verbose : Bool) (w : World) (err : String) :
    match w.startLog req.logFile.path? with
    | .ok w' => Logger.configure World.host (settingsOf req verbose) 0 { w with err } =
      ((.ok (), (settingsOf req verbose).logger 0), { w' with err })
    | .error e => ∃ logger, Logger.configure World.host (settingsOf req verbose) 0 { w with err } =
      ((.error (.logFile e), logger), { w with err }) := by
  have hfile : (settingsOf req verbose).logFile = req.logFile.path? := rfl
  cases hp : req.logFile.path? with
  | none =>
    rw [hp] at hfile
    simp only [startLog, Option.elim]
    rw [Logger.does_configure_console World.host _ hfile rfl, Settings.logger, hfile]
    rfl
  | some p =>
    rw [hp] at hfile
    have hf : holdsField (effectiveFormat (settingsOf req verbose).format).toList := by
      show holdsField (effectiveFormat defaultFormat).toList
      decide +kernel
    simp only [Logger.configure, Logger.reconfigure, hf, hfile, Bool.not_true, Bool.false_eq_true,
      if_false, bind, StateT.bind, host_openLog, openLog_err, startLog, Option.elim]
    cases w.openLog p with
    | error e => exact ⟨_, rfl⟩
    | ok w' =>
      rw [Settings.logger, hfile]
      rfl

/-- A run ends in the same way whether all records are asked for or not, and tells the same records
as far as they are heard. How the program is to be called is told without any record. -/
def Ends (x : Bool → StateM World Outcome) (w : World) : Prop :=
  ∃ (outcome : Outcome) (w' : World) (records : List Record) (usage : String),
    (usage = "" ∨ records = [] ∧ ∃ code, outcome = .usage code) ∧ (∀ r ∈ records, r.OfRun) ∧
    ∀ verbose, x verbose w =
      (outcome, { w' with err := w.err ++ linesOf w.stamp (heard verbose records) ++ usage })

namespace Ends

variable {x y : Bool → StateM World Outcome} {w₁ : World}

theorem of_unchanged (outcome : Outcome) (h : ∀ verbose, x verbose w = (outcome, w)) :
    Ends x w := by
  refine ⟨outcome, w, [], "", .inl rfl, nofun, ?_⟩
  intro verbose
  rw [h, heard_nil, linesOf_nil, String.append_empty, String.append_empty]

theorem stop (st : Stop) (w : World) : Ends (fun _ => Cli.stop World.host st) w := by
  cases st with
  | help =>
    refine ⟨.usage exitClean, { w with out := w.out ++ helpText }, [], "", .inl rfl, nofun, ?_⟩
    intro verbose
    rw [heard_nil, linesOf_nil, String.append_empty, String.append_empty]
    rfl
  | error e =>
    refine ⟨.usage exitUnusable, w, [],
      usageText ++ programName ++ ": error: " ++ e.message ++ "\n", .inr ⟨rfl, _, rfl⟩, nofun, ?_⟩
    intro verbose
    rw [heard_nil, linesOf_nil, String.append_empty]
    rfl

theorem of_tells {x : Bool → RunM (StateM World) Outcome} (h : Tells x) (w : World) :
    Ends (fun verbose => do
      match ← (x verbose).run with
      | .ok outcome => return outcome
      | .error outcome => return outcome) w := by
  obtain ⟨result, w', records, -, hof, hx⟩ := h w
  have hrun : ∀ verbose, (x verbose).run w =
      (result, { w' with err := w.err ++ linesOf w.stamp (heard verbose records) }) :=
    fun verbose => hx verbose w.err
  have hend : ∃ outcome, result = .ok outcome ∨ result = .error outcome := by
    cases result with
    | ok outcome => exact ⟨outcome, .inl rfl⟩
    | error outcome => exact ⟨outcome, .inr rfl⟩
  obtain ⟨outcome, rfl | rfl⟩ := hend
  all_goals
    refine ⟨outcome, w', records, "", .inl rfl, hof, ?_⟩
    intro verbose
    simp only [bind, StateT.bind, hrun, String.append_empty]
    rfl

/-- A run whose log is set up first. -/
theorem start (h : Ends y { w₁ with err := w.err }) (hs : w₁.stamp = w.stamp)
    (hx : ∀ verbose, x verbose w = y verbose { w₁ with err := w.err }) : Ends x w := by
  obtain ⟨outcome, w', records, usage, hu, hof, hy⟩ := h
  refine ⟨outcome, w', records, usage, hu, hof, ?_⟩
  intro verbose
  rw [hx, hy, hs]

end Ends

theorem ends_perform (req : Request) (w : World) :
    Ends (fun verbose => perform World.host { req with verbose }) w := by
  by_cases hn : req.logFile = .nothing
  · refine Ends.of_unchanged (.escaped (.noFile .logFile)) ?_
    intro verbose
    simp only [perform, hn, if_true]
    rfl
  have hlog := fun verbose => configure_settingsOf req verbose w w.err
  cases hw : w.startLog req.logFile.path? with
  | error e =>
    simp only [hw] at hlog
    refine Ends.of_unchanged (.escaped (.logSetup (.logFile e))) ?_
    intro verbose
    obtain ⟨logger, hlog⟩ := hlog verbose
    simp only [perform, hn, if_false, bind, StateT.bind]
    rw [← settingsOf, hlog]
    rfl
  | ok w₁ =>
    simp only [hw] at hlog
    by_cases hm : (!req.source.isAbsent && decide (1 < req.files.length)) = true
    · refine (Ends.stop (.error .sourceOfMany) _).start (startLog_stamp hw) ?_
      intro verbose
      simp only [perform, hn, if_false, bind, StateT.bind]
      rw [← settingsOf, hlog]
      simp only [hm, if_true]
    · refine (Ends.of_tells (tells_lintFiles req) _).start (startLog_stamp hw) ?_
      intro verbose
      simp only [perform, hn, if_false, bind, StateT.bind]
      rw [← settingsOf, hlog]
      simp only [hm]
      rfl

/-- The command lines ask for the same, and only the second one for all records. -/
structure DifferInVerbose (quiet loud : List String) : Prop where
  same : Request.ofArguments loud =
    (Request.ofArguments quiet).map fun req => { req with verbose := true }
  quiet : ∀ req, Request.ofArguments quiet = .ok req → req.verbose = false

theorem ends_run {quiet loud : List String} (h : DifferInVerbose quiet loud) (w : World) :
    Ends (fun verbose => run World.host (if verbose then loud else quiet)) w := by
  have hparsed : ∀ verbose, Request.ofArguments (if verbose then loud else quiet) =
      (Request.ofArguments quiet).map fun req => { req with verbose } := by
    intro verbose
    cases verbose with
    | true => exact h.same
    | false =>
      show Request.ofArguments quiet = _
      cases hq : Request.ofArguments quiet with
      | error st => rfl
      | ok req => exact congrArg (fun v => Except.ok { req with verbose := v }) (h.quiet req hq)
  simp only [run, hparsed]
  cases Request.ofArguments quiet with
  | error st => exact Ends.stop st w
  | ok req => exact ends_perform req w

/-- Two runs that are asked for the same, and only the second one for all records: they end in the
same way, with the same output and the same files. What the error stream of the first one gets are
those records of the second one that are warnings or worse, in their order. Where the command line
gives no run both tell the same about it, and no records. -/
theorem verbose_run_adds_debug_records {quiet loud : List String} (h : DifferInVerbose quiet loud)
    (w : World) : ∃ (outcome : Outcome) (w' : World) (records : List Record) (usage : String),
      run World.host quiet w = (outcome, { w' with
        err := w.err ++ linesOf w.stamp (records.filter (warning ≤ ·.level)) ++ usage }) ∧
      run World.host loud w = (outcome, { w' with
        err := w.err ++ linesOf w.stamp records ++ usage }) ∧
      (usage = "" ∨ records = [] ∧ ∃ code, outcome = .usage code) ∧
      ∀ r ∈ records, r.level = debug ∨ r.level = error := by
  obtain ⟨outcome, w', records, usage, hu, hof, hx⟩ := ends_run h w
  exact ⟨outcome, w', records, usage, hx false, hx true, hu, fun r hr => (hof r hr).level⟩

/-- The world after a record: the log file has it, and the error stream if it is heard. -/
def afterRecord (req : Request) (verbose : Bool) (w : World) (r : Record) : World :=
  { w.toLogFile req.logFile.path? (r.line w.stamp) with
    err := w.err ++ linesOf w.stamp (heard verbose [r]) }

theorem exec_logAll_singleton (hr : r.OfRun) (req : Request) (verbose : Bool) (w : World) :
    exec (logAll World.host ((settingsOf req verbose).logger 0) [r]) w =
      (.ok (), afterRecord req verbose w r) := by
  have hlog : ([r].forM (((settingsOf req verbose).logger 0).log World.host)) w =
      ((settingsOf req verbose).logger 0).log World.host r { w with err := w.err } := rfl
  rw [logAll, exec_lift, hlog, log_settingsOf hr]
  rfl

theorem exec_fail (message : Wording → String) (req : Request) (verbose : Bool) (w : World) :
    exec (fail World.host ((settingsOf req verbose).logger 0) message : RunM (StateM World) α) w =
      (.error (.exit exitUnusable),
        afterRecord req verbose w (errorRecord (message w.wording))) := by
  have hr : (errorRecord (message w.wording)).OfRun := ⟨covers_rootChannel, .inr rfl⟩
  have hw : World.host.wording w = (w.wording, w) := rfl
  simp only [fail, exec_bind, exec_lift, hw, exec_logAll_singleton hr, exec_throw]

/-- A world with an empty configuration, and without any template. -/
def bareWorld : World where
  files := [([".template-lintrc.toml"], .content .empty)]
  stamp := "0:01"
  wording _ := "no such file"

/-- A run with a log file. -/
def loggedArguments (verbose : Bool) : List String :=
  if verbose then ["a.json", "--log-file", "run.log", "--verbose"]
  else ["a.json", "--log-file", "run.log"]

def loggedRequest : Request where
  files := [firstFile]
  config := .path settingsFile
  source := .absent
  verbose := false
  logFile := .path ⟨.relative, ["run.log"]⟩

/-- The world in which the log file is open. -/
def openedWorld : World := bareWorld.setFile ["run.log"] (.content .empty)

/-- What is logged when the configuration has been read. -/
def loadedRecord : Record :=
  ⟨"invocable_lint.config", debug, "Loaded lint config from .template-lintrc.toml"⟩

/-- What is logged when the template is missing. -/
def missingRecord : Record :=
  ⟨"invocable_lint", error, "Cannot load a.json: no such file"⟩

theorem starts_loggedArguments (verbose : Bool) :
    Starts World.host (loggedArguments verbose) { loggedRequest with verbose }
      ((settingsOf loggedRequest verbose).logger 0) bareWorld openedWorld where
  request := by cases verbose <;> rfl
  logFile := nofun
  log := configure_settingsOf loggedRequest verbose bareWorld ""
  source := .inl rfl

theorem load_openedWorld :
    LintConfig.load World.host settingsFile (some Linter.ruleNames) openedWorld =
      ((.ok ⟨[], some settingsFile⟩, [loadedRecord]), openedWorld) := by
  have hread : World.host.readText settingsFile openedWorld = (.ok "", openedWorld) := rfl
  have htoml : Toml.read "" = .ok [] := rfl
  have hrules : LintConfig.ofFields [] (some Linter.ruleNames) (some settingsFile) =
      .ok ⟨[], some settingsFile⟩ :=
    LintConfig.ofFields_eq_ok_iff.mpr ⟨[], rfl, nofun, rfl⟩
  have hrecord : LintConfig.loadedRecord settingsFile = loadedRecord := by decide +kernel
  simp only [LintConfig.load, bind, StateT.bind, hread, LintConfig.parse, htoml, hrules, hrecord]
  rfl

/-- The run logs that the configuration was read, and ends at the template, which is missing. -/
theorem run_loggedArguments (verbose : Bool) :
    run World.host (loggedArguments verbose) bareWorld = (.exit 2,
      afterRecord loggedRequest verbose
        (afterRecord loggedRequest verbose openedWorld loadedRecord) missingRecord) := by
  generalize hw : afterRecord loggedRequest verbose openedWorld loadedRecord = w
  have hr : loadedRecord.OfRun := ofRun_of_channel covers_configChannel _
  have hconfig : exec (loadConfig World.host ((settingsOf loggedRequest verbose).logger 0)
      loggedRequest.config) openedWorld = (.ok ⟨[], some settingsFile⟩, w) := by
    have hp : loggedRequest.config.path? = some settingsFile := rfl
    simp only [loadConfig, hp, exec_bind, exec_lift, load_openedWorld, exec_logAll_singleton hr, hw]
    rfl
  have hmissing : Template.load World.host firstFile w =
      (.error (.read (.file firstFile .missing)), w) := by
    rw [← hw]
    rfl
  have hrecord : errorRecord (unloadable firstFile (.read (.file firstFile .missing)) w.wording) =
      missingRecord := by
    have hwording : w.wording = fun _ => "no such file" := by
      rw [← hw]
      rfl
    rw [hwording]
    decide +kernel
  have hlint : exec (lintFile World.host ((settingsOf loggedRequest verbose).logger 0)
      ⟨[], some settingsFile⟩ loggedRequest.source firstFile) w =
        (.error (.exit 2), afterRecord loggedRequest verbose w missingRecord) := by
    simp only [lintFile, loadTemplate, exec_bind, exec_lift, hmissing]
    rw [exec_fail, hrecord]
    rfl
  have hfiles : exec (loggedRequest.files.mapM (lintFile World.host
      ((settingsOf loggedRequest verbose).logger 0) ⟨[], some settingsFile⟩
        loggedRequest.source)) w =
        (.error (.exit 2), afterRecord loggedRequest verbose w missingRecord) := by
    have hone : loggedRequest.files = [firstFile] := rfl
    rw [hone, List.mapM_cons, exec_bind, hlint]
  have hend : exec (lintFiles World.host ((settingsOf loggedRequest verbose).logger 0)
      { loggedRequest with verbose }) openedWorld =
        (.error (.exit 2), afterRecord loggedRequest verbose w missingRecord) := by
    rw [lintFiles, exec_bind, hconfig]
    simp only [exec_bind, hfiles]
  rw [run_of_starts (starts_loggedArguments verbose), hend]

theorem err_afterRecords (verbose : Bool) :
    (afterRecord loggedRequest verbose
        (afterRecord loggedRequest verbose openedWorld loadedRecord) missingRecord).err =
      linesOf "0:01" (heard verbose [loadedRecord, missingRecord]) := by
  have hpair : [loadedRecord, missingRecord] = [loadedRecord] ++ [missingRecord] := rfl
  rw [hpair, heard_append, linesOf_append]
  exact congrArg (· ++ linesOf "0:01" (heard verbose [missingRecord])) String.empty_append

theorem content?_afterRecord {w : World} {bytes : ByteArray} (hd : w.workingDirectory = [])
    (h : w.content? ["run.log"] = some bytes) (verbose : Bool) (r : Record) :
    (afterRecord loggedRequest verbose w r).content? ["run.log"] =
      some (bytes ++ (r.line w.stamp).toUTF8) := by
  have hplace : ["run.log"] = w.logPlace ⟨.relative, ["run.log"]⟩ := by
    rw [logPlace, World.start, hd]
    rfl
  show (w.append ⟨.relative, ["run.log"]⟩ (r.line w.stamp)).content? ["run.log"] = _
  rw [content?_append, h, if_pos hplace]
  rfl

theorem content?_afterRecords (verbose : Bool) :
    (afterRecord loggedRequest verbose
        (afterRecord loggedRequest verbose openedWorld loadedRecord) missingRecord).content?
          ["run.log"] = some (linesOf "0:01" [loadedRecord, missingRecord]).toUTF8 := by
  have hopened : openedWorld.content? ["run.log"] = some .empty := rfl
  have hfirst := content?_afterRecord rfl hopened verbose loadedRecord
  have hsecond := content?_afterRecord rfl hfirst verbose missingRecord
  have hlines : linesOf "0:01" [loadedRecord, missingRecord] =
      loadedRecord.line "0:01" ++ missingRecord.line "0:01" := by simp [linesOf]
  have hjoin (s t : String) : .empty ++ s.toUTF8 ++ t.toUTF8 = (s ++ t).toUTF8 := by simp
  rw [hsecond, hlines]
  exact congrArg some (hjoin _ _)

/-- A run with a log file that ends at its only template, which is missing. The record of the
configuration is on the error stream of the second run alone, and in the log file of both. -/
theorem verbose_run_adds_debug_records_bareWorld :
    DifferInVerbose ["a.json", "--log-file", "run.log"]
      ["a.json", "--log-file", "run.log", "--verbose"] ∧
    ∃ w' : World,
      run World.host ["a.json", "--log-file", "run.log"] bareWorld =
        (.exit 2, { w' with err := linesOf "0:01" [missingRecord] }) ∧
      run World.host ["a.json", "--log-file", "run.log", "--verbose"] bareWorld =
        (.exit 2, { w' with err := linesOf "0:01" [loadedRecord, missingRecord] }) ∧
      w'.content? ["run.log"] = some (linesOf "0:01" [loadedRecord, missingRecord]).toUTF8 := by
  have hdiffer : DifferInVerbose (loggedArguments false) (loggedArguments true) := by
    constructor
    · rfl
    · rintro req hr
      cases hr
      rfl
  refine ⟨hdiffer, ?_⟩
  obtain ⟨outcome, w', records, usage, hquiet, hloud, -, -⟩ :=
    verbose_run_adds_debug_records hdiffer bareWorld
  obtain ⟨-, hquiet⟩ := Prod.ext_iff.mp ((run_loggedArguments false).symm.trans hquiet)
  obtain ⟨-, hloud⟩ := Prod.ext_iff.mp ((run_loggedArguments true).symm.trans hloud)
  simp only at hquiet hloud
  have hquietErr := (congrArg World.err hquiet).symm.trans (err_afterRecords false)
  have hloudErr := (congrArg World.err hloud).symm.trans (err_afterRecords true)
  simp only at hquietErr hloudErr
  refine ⟨w', ?_, ?_, ?_⟩
  · refine (run_loggedArguments false).trans ?_
    rw [hquiet, hquietErr]
    rfl
  · refine (run_loggedArguments true).trans ?_
    rw [hloud, hloudErr]
    rfl
  · rw [← content?_afterRecords false, hquiet]
    rfl

end Cli

end TemplateLint
