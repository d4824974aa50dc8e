import TemplateLint.Proofs.Reference
import TemplateLint.Proofs.RequestedFiles
import TemplateLint.Proofs.RunOutcomes

/-!
A run of the program over several files: it goes through them in their order, up to the first one
that cannot be linted. Main statement: what it has then written, and how it ends.
-/

namespace TemplateLint.Cli

open Log (Logger)
open RunM

variable {σ : Type} {view : View σ} {d : Disk} {host : Host (StateM σ)} {logger : Logger}
  {c : LintConfig} {r : Request} {arguments : List String} {before : List Path} {p : Path}
  {o outcome : Outcome} {s s' : σ}

/-- The logger of a run without a log file. -/
def consoleLogger (r : Request) : Logger :=
  ⟨(logSettings r).level, [Logger.console (logSettings r) 0]⟩

theorem consoleOnly_consoleLogger (r : Request) : (consoleLogger r).ConsoleOnly := by
  intro o ho
  cases List.mem_singleton.mp ho
  exact ⟨0, rfl⟩

/-- The command line asks for a run without a log file, and gives a source to no more than one
file. -/
structure Runs (arguments : List String) (r : Request) : Prop where
  request : Request.ofArguments arguments = .ok r
  logFile : r.logFile = .absent
  source : r.source.isAbsent ∨ r.files.length ≤ 1

theorem Runs.starts (h : Runs arguments r) (host : Host (StateM σ)) (s : σ) :
    Starts host arguments r (consoleLogger r) s s where
  request := h.request
  logFile := by
    rw [h.logFile]
    nofun
  log := by
    have hn : (logSettings r).logFile = none := by
      rw [logSettings, h.logFile]
      rfl
    rw [Logger.does_configure_console host (logSettings r) hn rfl]
    rfl
  source := h.source

/-- Both ways in which the linting of the files ends are outcomes of the run. -/
theorem run_eq (h : Runs arguments r) (host : Host (StateM σ)) (s : σ) :
    run host arguments s = match exec (lintFiles host (consoleLogger r) r) s with
      | (.ok outcome, s') | (.error outcome, s') => (outcome, s') :=
  run_of_starts (h.starts host s)

theorem run_of_gives {result : Except Outcome Outcome} {t : String} (h : Runs arguments r)
    (hg : Gives view (view.disk s) (lintFiles host (consoleLogger r) r) result t)
    (hrun : run host arguments s = (outcome, s')) :
    (result = .ok outcome ∨ result = .error outcome) ∧ view.Writes t s s' := by
  obtain ⟨s₁, he, hw⟩ := hg.exists_exec rfl
  rw [run_eq h, he] at hrun
  cases result with
  | ok o =>
    cases hrun
    exact ⟨.inl rfl, hw⟩
  | error o =>
    cases hrun
    exact ⟨.inr rfl, hw⟩

/-- When the run ends at a file, it ends there in the same state whatever files follow. -/
theorem run_of_failure {t : String}
    (hc : Gives view (view.disk s) (loadConfig host (consoleLogger r) r.config) (.ok c) "")
    (hg : Gives view (view.disk s)
      ((before ++ [p]).mapM (lintFile host (consoleLogger r) c r.source)) (.error o) t) :
    ∃ s', view.Writes t s s' ∧ ∀ arguments after,
      Runs arguments { r with files := before ++ p :: after } → run host arguments s = (o, s') := by
  obtain ⟨s₁, hload, hw₁⟩ := hc.exists_exec rfl
  obtain ⟨s₂, hfiles, hw₂⟩ := hg.exists_exec hw₁.1
  have hw : view.Writes t s s₂ := by
    have hw := hw₁.trans hw₂
    rwa [String.empty_append] at hw
  refine ⟨s₂, hw, fun arguments after h => ?_⟩
  have hlog : consoleLogger { r with files := before ++ p :: after } = consoleLogger r := rfl
  have hx : exec (lintFiles host (consoleLogger r) { r with files := before ++ p :: after }) s =
      (.error o, s₂) := by
    rw [lintFiles, exec_bind, hload]
    simp only [exec_bind, exec_mapM_of_prefix hfiles]
  rw [run_eq h, hlog, hx]

theorem gives_lintFiles (hs : host.Shows view) (hl : logger.ConsoleOnly)
    (hc : Gives view d (loadConfig host logger r.config) (.ok c) "")
    (hf : ∀ q ∈ r.files, d.Lints c r.source q)
    (hg : Gives view d (r.files.mapM (lintFile host logger c r.source))
      (.ok (r.files.map (d.count c r.source))) (d.reports c r.source r.files)) :
    Gives view d (lintFiles host logger r) (.ok (.exit (d.exitCode c r.source r.files)))
      (d.reports c r.source r.files) := by
  rw [Disk.exitCode_eq hf]
  exact hc.quietly (hg.andQuietly ((gives_logAll hs hl _).quietly (.pure _)))

/-- A setting that is not accepted makes the first file fail. -/
theorem eq_nil_of_rejected (hr : c.rules.Registered) (h : c.rules.Rejected)
    (hb : ∀ q ∈ before, d.Lints c r.source q) : before = [] := by
  rw [List.eq_nil_iff_forall_not_mem]
  intro q hq
  exact (hb q hq).not_fails ((Disk.fails_iff hr).mpr (.inr h))

/-- A run without a log file from which nothing escapes. Without a configuration that can be loaded
it writes nothing to the output. Otherwise it comes to a first file that fails, and has by then
written the reports of the files before it, or it writes the reports of all its files. -/
theorem run_reports_until_failure (hs : host.Shows view) (h : Runs arguments r)
    (hrun : run host arguments s = (outcome, s')) (hesc : ∀ fault, outcome ≠ .escaped fault) :
    r.files ≠ [] ∧
    ((view.disk s).config? r.config = none → outcome = .exit 2 ∧ view.out s' = view.out s) ∧
    ∀ c, (view.disk s).config? r.config = some c →
      (∀ p vs, (view.disk s).violations? c r.source p = some vs →
        Violation.Ascending vs) ∧
      ((∃ before p after, r.files = before ++ p :: after ∧
        (∀ q ∈ before, (view.disk s).Lints c r.source q) ∧ (view.disk s).Fails c r.source p ∧
        outcome = .exit 2 ∧
        view.out s' = view.out s ++ (view.disk s).reports c r.source before ∧
        ((view.disk s).Loads r.source p ∨ c.rules.Rejected → before = []) ∧
        ∀ arguments' after', Runs arguments' { r with files := before ++ p :: after' } →
          run host arguments' s = (outcome, s')) ∨
      ((∀ q ∈ r.files, (view.disk s).Lints c r.source q) ∧
        outcome = .exit ((view.disk s).exitCode c r.source r.files) ∧
        view.out s' = view.out s ++ (view.disk s).reports c r.source r.files)) := by
  have hl := consoleOnly_consoleLogger r
  refine ⟨Request.files_ne_nil h.request, ?_, ?_⟩
  · intro hnone
    have hc := gives_loadConfig (d := view.disk s) hs hl r.config
    rw [hnone] at hc
    obtain ⟨o, ho, hg⟩ := hc
    obtain ⟨hout | hout, hw⟩ := run_of_gives h hg.stop hrun
    · cases hout
    · cases hout
      refine ⟨ho.eq_exit hesc, ?_⟩
      rw [hw.2, String.append_empty]
  · intro c hsome
    have hc := gives_loadConfig_of_some hs hl hsome
    refine ⟨fun p vs => Disk.ascending_of_violations?, ?_⟩
    rcases gives_mapM_lintFile hs hl c r.source r.files with
      ⟨hf, hg⟩ | ⟨before, p, after, o, hfiles, hb, ho, hp, hg⟩
    · right
      obtain ⟨hout | hout, hw⟩ := run_of_gives h (gives_lintFiles hs hl hc hf hg) hrun
      · cases hout
        exact ⟨hf, rfl, hw.2⟩
      · cases hout
    · left
      obtain ⟨s₁, hw, hsame⟩ := run_of_failure hc hg
      have hself : Runs arguments { r with files := before ++ p :: after } := by
        rw [← hfiles]
        exact h
      rw [hsame arguments after hself] at hrun
      cases hrun
      have hfails : (view.disk s).Fails c r.source p := by
        rcases hp with hp | ⟨fault, rfl⟩
        · exact hp
        · exact (hesc fault rfl).elim
      refine ⟨before, p, after, hfiles, hb, hfails, ho.eq_exit hesc, hw.2, ?_, hsame⟩
      have hr := Disk.registered_of_config? hsome
      rintro (hload | hrej)
      · have hset := (Disk.fails_iff hr).mp hfails
        exact eq_nil_of_rejected hr (hset.resolve_left (not_not_intro hload)) hb
      · exact eq_nil_of_rejected hr hrej hb

/-- The text of a template of three mustaches that write the null literal: on the second line, on
the first line, and where it is not told. -/
def nullsChars : List Char :=
  ["\x7b\"type\":\"Template\",\"body\":[",
    "\x7b\"type\":\"MustacheStatement\",\"path\":\x7b\"type\":\"NullLiteral\"\x7d,",
      "\"loc\":\x7b\"start\":\x7b\"line\":2,\"column\":1\x7d\x7d\x7d,",
    "\x7b\"type\":\"MustacheStatement\",\"path\":\x7b\"type\":\"NullLiteral\"\x7d,",
      "\"loc\":\x7b\"start\":\x7b\"line\":1,\"column\":3\x7d\x7d\x7d,",
    "\x7b\"type\":\"MustacheStatement\",\"path\":\x7b\"type\":\"NullLiteral\"\x7d\x7d]\x7d"
  ].flatMap String.toList

def nullsText : String := String.ofList nullsChars

theorem toList_nullsText : nullsText.toList = nullsChars := String.toList_ofList

/-- The fields of such a mustache, with those of its place. -/
def nullFields (place : Fields) : Value :=
  .table (("type", .text "MustacheStatement") ::
    ("path", .table [("type", .text "NullLiteral")]) :: place)

def placeFields (line column : Int) : Fields :=
  [("loc", .table [("start", .table [("line", .int line), ("column", .int column)])])]

def nullsDocument : Value :=
  .table [("type", .text "Template"), ("body", .list [nullFields (placeFields 2 1),
    nullFields (placeFields 1 3), nullFields []])]

def nullMustache (loc : Option Location) : Node :=
  .mustacheStatement (.null none) [] .empty false loc

def nullsTemplate : Node :=
  .template [nullMustache (some ⟨⟨2, 1⟩, ⟨2, 1⟩⟩), nullMustache (some ⟨⟨1, 3⟩, ⟨1, 3⟩⟩),
    nullMustache none] [] none

theorem read_nullsText : Json.read nullsText = .ok nullsDocument := by
  rw [Json.read, toList_nullsText]
  decide +kernel

theorem decode_nullsDocument : Node.decode nullsDocument = .ok nullsTemplate := by
  simp [Node.decode, nullsDocument, nullsTemplate, nullFields, placeFields, nullMustache,
    Decode.node, Decode.object, Decode.nodes, Decode.all, Decode.required, Decode.hash,
    Decode.blockParams, Decode.trusting, Location.decode, Position.decode, Position.coordinate,
    Kind.ofValue?, Kind.ofName?, Kind.all, Kind.name, Fields.getD, Named.get?, List.lookup_cons,
    List.lookup_nil, Value.truthy, bind, Except.bind, pure, Except.pure, OptionT.bind, OptionT.pure,
    OptionT.run, OptionT.mk]

/-- The text of a configuration that allows no invocation. -/
def nothingAllowed : String := "[rules]\ninvocable-blacklist = ['*']\n"

theorem read_nothingAllowed :
    Toml.read nothingAllowed = .ok [("rules", .table [(Rule.name, .list [.text "*"])])] := by
  decide +kernel

def settingsFile : Path := ⟨.relative, [".template-lintrc.toml"]⟩

def firstFile : Path := ⟨.relative, ["a.json"]⟩

def secondFile : Path := ⟨.relative, ["b.json"]⟩

/-- A world in which the settings file holds that configuration and the first file that template.
The second file is missing. -/
def sampleWorld : World where
  files := [([".template-lintrc.toml"], .content nothingAllowed.toUTF8),
    (["a.json"], .content nullsText.toUTF8)]

abbrev sampleDisk : Disk := World.visible.disk sampleWorld

def sampleConfig : LintConfig :=
  ⟨[(Rule.name, .list [.text "*"])], some settingsFile⟩

def sampleRequest : Request where
  files := [firstFile, secondFile]
  config := .path settingsFile
  source := .absent
  verbose := false
  logFile := .absent

theorem runs_sampleRequest : Runs ["a.json", "b.json"] sampleRequest :=
  ⟨rfl, rfl, .inl rfl⟩

theorem config?_sampleDisk : sampleDisk.config? sampleRequest.config = some sampleConfig := by
  have hc : '\r' ∉ nothingAllowed.toList := by decide +kernel
  have ht : sampleDisk.readText settingsFile = .ok nothingAllowed :=
    Disk.readText_of_read rfl hc
  have hp : LintConfig.parse settingsFile (.ok nothingAllowed) =
      .ok [("rules", .table [(Rule.name, .list [.text "*"])])] := by
    rw [LintConfig.parse, read_nothingAllowed]
  have hf : LintConfig.ofFields [("rules", .table [(Rule.name, .list [.text "*"])])]
      (some Linter.ruleNames) (some settingsFile) = .ok sampleConfig := by
    simp [LintConfig.ofFields, LintConfig.unknownNames, Named.get?, Named.names, Linter.ruleNames,
      Text.sortedNames, sampleConfig]
  simp only [Disk.config?, sampleRequest, Given.path?, Option.bind_some, Disk.readConfig, ht, hp,
    Except.bind, hf]
  rfl

theorem template?_sampleDisk : sampleDisk.template? firstFile = some nullsTemplate := by
  have hc : '\r' ∉ nullsText.toList := by
    rw [toList_nullsText]
    decide +kernel
  exact Disk.template?_of_text (Disk.readText_of_read rfl hc) read_nullsText decode_nullsDocument

/-- What is wrong in the template, by place. -/
def nullsViolations : List Violation :=
  [⟨Rule.name, blacklistedMessage "wildcard", none, none, ""⟩,
    ⟨Rule.name, blacklistedMessage "wildcard", some 1, some 3, ""⟩,
    ⟨Rule.name, blacklistedMessage "wildcard", some 2, some 1, ""⟩]

theorem result_nullsTemplate :
    Linter.result nullsTemplate sampleConfig.rules "" = .ok nullsViolations := by
  have h : Setting.compile Rule.name (.list [.text "*"]) = .ok (some [("*", .passes [])]) := rfl
  have found : Reference.node [.text "*"] ∅ nullsTemplate =
    [⟨nullMustache (some ⟨⟨2, 1⟩, ⟨2, 1⟩⟩), "wildcard"⟩,
      ⟨nullMustache (some ⟨⟨1, 3⟩, ⟨1, 3⟩⟩), "wildcard"⟩, ⟨nullMustache none, "wildcard"⟩] := rfl
  have hn : nullsTemplate.firstFault = none := by
    refine Node.firstFault_eq_none_of_texts fun value loc hm => ?_
    simp [Node.occurrences_eq, Node.children, nullsTemplate, nullMustache, Hash.empty] at hm
  have hv : (Reference.node [.text "*"] ∅ nullsTemplate).map (Finding.violation "") =
      nullsViolations.reverse := by
    rw [found]
    rfl
  rw [sampleConfig, Linter.result_of_no_fault h hn,
    Node.treeEvents_findings h Scope.binds_nil nullsTemplate, hv]
  simp [nullsViolations, Violation.sort, List.mergeSort, Violation.le, Violation.key]

theorem violations?_sampleDisk :
    sampleDisk.violations? sampleConfig .absent firstFile = some nullsViolations := by
  have hs : sampleDisk.source? firstFile .absent = some "" := rfl
  rw [Disk.violations?_of_loaded template?_sampleDisk hs, result_nullsTemplate]
  rfl

theorem lints_firstFile : sampleDisk.Lints sampleConfig .absent firstFile := by
  rw [Disk.Lints, violations?_sampleDisk]
  rfl

/-- A report of the first file. -/
def wildcardReport (line column : String) : String :=
  "a.json" ++ ":" ++ line ++ ":" ++ column ++ ":" ++
    (" " ++ ("Cannot use blacklisted helper or component '\x7b\x7b" ++ "wildcard" ++ "\x7d\x7d'") ++
      " (" ++ "invocable-blacklist" ++ ")\n")

theorem recordText_wildcard (line column : Option Int) :
    Violation.recordText firstFile ⟨Rule.name, blacklistedMessage "wildcard", line, column, ""⟩ =
      wildcardReport (positionText line) (positionText column) := rfl

theorem reports_firstFile : sampleDisk.reports sampleConfig .absent [firstFile] =
    wildcardReport "?" "?" ++ wildcardReport "1" "3" ++ wildcardReport "2" "1" := by
  have hjoin (a b c : String) : String.join [a, b, c] = a ++ b ++ c := by
    simp [String.append_assoc]
  have hone : positionText (some 1) = "1" := rfl
  have htwo : positionText (some 2) = "2" := rfl
  have hthree : positionText (some 3) = "3" := rfl
  have hunknown : positionText none = "?" := rfl
  rw [Disk.reports, List.map_singleton, Disk.report, violations?_sampleDisk]
  simp [nullsViolations, recordText_wildcard, hjoin, hone, htwo, hthree, hunknown,
    String.append_assoc]

theorem readTemplate_secondFile :
    sampleDisk.readTemplate secondFile = .error (.read (.file secondFile .missing)) := by
  have hr : sampleDisk.read secondFile = .error .missing := rfl
  simp only [Disk.readTemplate, Disk.readText, hr]
  rfl

/-- The run ends at the second file, which is missing. -/
theorem run_sampleWorld :
    ∃ s', run World.host ["a.json", "b.json"] sampleWorld = (.exit 2, s') := by
  have hs := World.host_shows
  have hl := consoleOnly_consoleLogger sampleRequest
  have hc := gives_loadConfig_of_some hs hl config?_sampleDisk
  have hfirst := gives_lintFile_of_lints hs hl lints_firstFile
  have hsecond : Gives World.visible sampleDisk
      (lintFile World.host (consoleLogger sampleRequest) sampleConfig .absent secondFile)
      (.error (.exit 2)) "" :=
    (gives_loadTemplate_of_fault hs hl readTemplate_secondFile (by simp)).stop
  have hfiles : Gives World.visible sampleDisk
      (([firstFile] ++ [secondFile]).mapM
        (lintFile World.host (consoleLogger sampleRequest) sampleConfig .absent)) (.error (.exit 2))
      (sampleDisk.report sampleConfig .absent firstFile ++ "") := by
    simp only [List.cons_append, List.nil_append, List.mapM_cons]
    exact hfirst.bind hsecond.stop.stop
  obtain ⟨s', -, hrun⟩ := run_of_failure (r := sampleRequest) hc hfiles
  exact ⟨s', hrun _ [] runs_sampleRequest⟩

/-- The reports of the first file are written by place, though the run ends with the second one. -/
theorem run_reports_until_failure_sampleWorld : ∃ s',
    run World.host ["a.json", "b.json"] sampleWorld = (.exit 2, s') ∧
    s'.out = wildcardReport "?" "?" ++ wildcardReport "1" "3" ++ wildcardReport "2" "1" := by
  obtain ⟨s', hrun⟩ := run_sampleWorld
  refine ⟨s', hrun, ?_⟩
  obtain ⟨-, -, hc⟩ :=
    run_reports_until_failure World.host_shows runs_sampleRequest hrun (by simp)
  obtain ⟨-, hend⟩ := hc sampleConfig config?_sampleDisk
  rcases hend with ⟨before, p, after, hfiles, -, hfails, -, hout, -, -⟩ | ⟨hall, -, -⟩
  · rcases before with - | ⟨q, - | ⟨q', rest⟩⟩
    · have hp : p = firstFile := (List.cons.inj hfiles).1.symm
      rw [hp] at hfails
      exact (lints_firstFile.not_fails hfails).elim
    · have hq : q = firstFile := (List.cons.inj hfiles).1.symm
      rw [hq] at hout
      exact (hout.trans String.empty_append).trans reports_firstFile
    · have hlen := congrArg List.length hfiles
      simp [sampleRequest] at hlen
  · have hsecond : sampleDisk.Lints sampleConfig .absent secondFile :=
      hall _ (by simp [sampleRequest])
    have hload := hsecond.loads.1
    rw [Disk.template?, readTemplate_secondFile] at hload
    cases hload

end TemplateLint.Cli
