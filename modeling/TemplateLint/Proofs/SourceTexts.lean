import TemplateLint.Proofs.CommandRun
import TemplateLint.Proofs.TwinWorlds

/-!
Runs in two worlds that differ in the text of one file. Main statement: unless the file is the
configuration or one of the templates, the runs end in the same way and write the same.
-/

namespace TemplateLint

open Log (Logger Record)

variable {α β : Type}

namespace Cli

open World

variable {place : List String} {spared : List Path} {p : Path} {r : Request}

theorem coupled_logAll (logger : Logger) (records : List Record) :
    CoupledSteps (Twins place spared) Eq (logAll World.host logger records)
      (logAll World.host logger records) :=
  .lift (.forM (coupled_log logger) records)

theorem coupled_fail (R : α → β → Prop) (logger : Logger) (message : Wording → String) :
    CoupledSteps (Twins place spared) R (fail World.host logger message)
      (fail World.host logger message) :=
  (CoupledSteps.lift coupled_wording).same_bind fun _ =>
    (coupled_logAll logger _).same_bind fun _ => .throw _

theorem coupled_refuse (R : α → β → Prop) (logger : Logger) (e : SettingError) :
    CoupledSteps (Twins place spared) R (refuse World.host logger e)
      (refuse World.host logger e) := by
  unfold refuse
  cases e.text? with
  | none => exact .throw _
  | some message => exact coupled_fail R logger fun _ => message

theorem coupled_loadConfig (logger : Logger) {given : Given} (hg : ∀ p ∈ given.path?, p ∈ spared) :
    CoupledSteps (Twins place spared) Eq (loadConfig World.host logger given)
      (loadConfig World.host logger given) := by
  unfold loadConfig
  cases hp : given.path? with
  | none => exact .throw _
  | some p =>
    have hload : CoupledSteps (ε := Outcome) (Twins place spared) Eq _ _ :=
      .lift (coupled_readConfig (hg p hp) (some Linter.ruleNames))
    refine hload.same_bind ?_
    rintro ⟨loaded, records⟩
    refine (coupled_logAll logger records).same_bind fun _ => ?_
    cases loaded with
    | ok config => exact .pure rfl
    | error e =>
      cases e with
      | config e => exact coupled_fail Eq logger _
      | _ => exact .throw _

/-- The tree of a template is the same, its source need not be. -/
theorem coupled_loadTemplate (logger : Logger) (hp : p ∈ spared) (source : Given) :
    CoupledSteps (Twins place spared) (fun a b => a.1 = b.1)
      (loadTemplate World.host logger p source) (loadTemplate World.host logger p source) := by
  have htree : CoupledSteps (ε := Outcome) (Twins place spared) Eq
      (ExceptT.lift (Template.load World.host p)) (ExceptT.lift (Template.load World.host p)) :=
    .lift (coupled_readTemplate hp)
  have hsource : CoupledSteps (ε := Outcome) (Twins place spared) (Alike fun _ _ => True)
      (ExceptT.lift (Template.source World.host p source.path?))
      (ExceptT.lift (Template.source World.host p source.path?)) :=
    .lift (coupled_readSource p source.path?)
  unfold loadTemplate
  refine htree.same_bind fun loaded => ?_
  cases loaded with
  | error e =>
    cases e with
    | decode e =>
      cases e with
      | infinitePosition => exact .throw _
      | _ => exact coupled_fail _ logger _
    | _ => exact coupled_fail _ logger _
  | ok tree =>
    by_cases hn : source = .nothing
    · simp only [hn, if_true]
      exact .stop _
    · simp only [hn, if_false]
      refine hsource.bind fun a b hab => ?_
      cases hab with
      | error e => exact coupled_fail _ logger _
      | ok _ => exact .pure rfl

/-- Reports do not tell the snippets. -/
theorem map_reportLine {vs ws : List Violation} (h : SameReports vs ws) (p : Path) :
    vs.map (reportLine p) = ws.map (reportLine p) := by
  have hline : reportLine p = reportLine p ∘ Violation.withoutSource := rfl
  unfold SameReports at h
  rw [hline, ← List.map_map, ← List.map_map, h]

theorem coupled_writeReports {vs ws : List Violation} (h : SameReports vs ws) (p : Path) :
    Coupled (Twins place spared) Eq (vs.forM fun v => World.host.writeOut (reportLine p v))
      (ws.forM fun v => World.host.writeOut (reportLine p v)) := by
  have hmap (xs : List Violation) : (xs.forM fun v => World.host.writeOut (reportLine p v)) =
      (xs.map (reportLine p)).forM World.host.writeOut := by
    simp only [List.forM_eq_forM, List.forM_map]
  rw [hmap, hmap, map_reportLine h p]
  exact .forM coupled_writeOut _

theorem coupled_lintFile (logger : Logger) (config : LintConfig) (source : Given)
    (hp : p ∈ spared) :
    CoupledSteps (Twins place spared) Eq (lintFile World.host logger config source p)
      (lintFile World.host logger config source p) := by
  unfold lintFile
  refine (coupled_loadTemplate logger hp source).bind ?_
  rintro ⟨tree, s⟩ ⟨_, t⟩ rfl
  obtain ⟨hresult, hlog⟩ := Linter.coupled_lint tree config.rules s t #[] #[] rfl
  simp only
  generalize hs : (Linter.lint tree config.rules s).run.run #[] = a
  generalize ht : (Linter.lint tree config.rules t).run.run #[] = b
  have hresult : Alike SameReports a.1 b.1 := by rw [← hs, ← ht]; exact hresult
  have hlog : a.2 = b.2 := by rw [← hs, ← ht]; exact hlog
  obtain ⟨found, records⟩ := a
  obtain ⟨found', _⟩ := b
  subst hlog
  refine (coupled_logAll logger records.toList).same_bind fun _ => ?_
  cases hresult with
  | error e =>
    cases e with
    | setting e => exact coupled_refuse Eq logger e
    | _ => exact .throw _
  | ok h =>
    refine (CoupledSteps.lift (coupled_writeReports h p)).same_bind fun _ => ?_
    exact .pure h.length_eq

theorem coupled_lintFiles (logger : Logger) (r : Request) (hr : ∀ p ∈ r.config.path?, p ∈ spared)
    (hf : ∀ p ∈ r.files, p ∈ spared) :
    CoupledSteps (Twins place spared) Eq (lintFiles World.host logger r)
      (lintFiles World.host logger r) := by
  unfold lintFiles
  refine (coupled_loadConfig logger hr).same_bind fun config => ?_
  have hfiles : CoupledSteps (Twins place spared) Eq
      (r.files.mapM (lintFile World.host logger config r.source))
      (r.files.mapM (lintFile World.host logger config r.source)) :=
    .mapM_same fun p hp => coupled_lintFile logger config r.source (hf p hp)
  refine hfiles.same_bind fun counts => ?_
  exact (coupled_logAll logger _).same_bind fun _ => .pure rfl

theorem coupled_stop (s : Stop) :
    Coupled (Twins place spared) Eq (stop World.host s) (stop World.host s) := by
  cases s with
  | help => exact (coupled_writeOut _).same_bind fun _ => .pure rfl
  | error e => exact (coupled_writeErr _).same_bind fun _ => .pure rfl

theorem coupled_perform (r : Request) (hr : ∀ p ∈ r.config.path?, p ∈ spared)
    (hf : ∀ p ∈ r.files, p ∈ spared) :
    Coupled (Twins place spared) Eq (perform World.host r) (perform World.host r) := by
  unfold perform
  by_cases hl : r.logFile = .nothing
  · simp only [hl, if_true]
    exact .pure rfl
  · simp only [hl, if_false]
    refine (coupled_configure (logSettings r) 0).same_bind ?_
    rintro ⟨ready, logger⟩
    cases ready with
    | error e => exact .pure rfl
    | ok u =>
      simp only
      split
      · exact coupled_stop _
      · refine Coupled.bind (coupled_lintFiles logger r hr hf) fun a b hab => ?_
        cases hab with
        | error outcome => exact .pure rfl
        | ok houtcome => exact .pure houtcome

/-- The files of a request that are not sources: its configuration and its templates. -/
def Request.documents (r : Request) : List Path := r.config.path?.toList ++ r.files

theorem coupled_run {arguments : List String}
    (h : ∀ r, Request.ofArguments arguments = .ok r → ∀ p ∈ r.documents, p ∈ spared) :
    Coupled (Twins place spared) Eq (run World.host arguments) (run World.host arguments) := by
  unfold run
  cases hr : Request.ofArguments arguments with
  | error s => exact coupled_stop s
  | ok r =>
    refine coupled_perform r (fun p hp => h r hr p ?_) fun p hp => h r hr p ?_
    · exact List.mem_append_left _ (Option.mem_toList.mpr hp)
    · exact List.mem_append_right _ hp

end Cli

open World Cli

/-- Linting finds the same violations, or the same fault, whatever the source of the tree is, but for
the snippets. A run ends in the same way and writes the same when one text takes the place of
another in a file, unless the file is its configuration or one of its templates. The other files,
the log among them, are the same after it as well. -/
theorem source_matters_to_snippets_alone :
    (∀ (tree : Node) (rules : Fields) (s t : String),
      (Linter.result tree rules s).map (List.map Violation.withoutSource) =
        (Linter.result tree rules t).map (List.map Violation.withoutSource)) ∧
    ∀ (w : World) (arguments : List String) (place : List String) (bytes bytes' : ByteArray),
      w.content? place = some bytes → (decodeText bytes).isSome → (decodeText bytes').isSome →
      (∀ r, Request.ofArguments arguments = .ok r →
        ∀ p ∈ r.documents, ∀ f, w.find p ≠ .ok (place, f)) →
      let run := Cli.run World.host arguments w
      let run' := Cli.run World.host arguments (w.setFile place (.content bytes'))
      run'.1 = run.1 ∧ run'.2.out = run.2.out ∧ run'.2.err = run.2.err ∧
        ∀ other, other ≠ place → run'.2.content? other = run.2.content? other := by
  refine ⟨fun tree rules s t => (Linter.alike_result tree rules s t).map_eq, ?_⟩
  intro w arguments place bytes bytes' hb ht ht' hdocuments
  obtain ⟨spared, hspared, hrequest⟩ : ∃ spared : List Path,
      (∀ p ∈ spared, ∀ f, w.find p ≠ .ok (place, f)) ∧
      ∀ r, Request.ofArguments arguments = .ok r → ∀ p ∈ r.documents, p ∈ spared := by
    cases hr : Request.ofArguments arguments with
    | error s => exact ⟨[], nofun, nofun⟩
    | ok r =>
      refine ⟨r.documents, hdocuments r hr, ?_⟩
      rintro r' h
      cases h
      exact fun _ hp => hp
  obtain ⟨houtcome, hafter⟩ := coupled_run hrequest _ _ (twins_setFile hb ht ht' hspared)
  exact ⟨houtcome.symm, hafter.out, hafter.err, fun other ho => hafter.content?_eq ho⟩

/-- A world in which the first file has a source beside it. -/
def sourcedWorld : World := sampleWorld.setFile ["a"] (.content "one line".toUTF8)

/-- A run over the first file alone is the same with an empty source. -/
theorem source_matters_to_snippets_alone_sourcedWorld :
    let run := Cli.run World.host ["a.json"] sourcedWorld
    let run' := Cli.run World.host ["a.json"] (sourcedWorld.setFile ["a"] (.content "".toUTF8))
    run'.1 = run.1 ∧ run'.2.out = run.2.out ∧ run'.2.err = run.2.err := by
  have hr : Request.ofArguments ["a.json"] = .ok { sampleRequest with files := [firstFile] } := rfl
  have hdocuments : ∀ r, Request.ofArguments ["a.json"] = .ok r →
      ∀ p ∈ r.documents, ∀ f, sourcedWorld.find p ≠ .ok (["a"], f) := by
    have hsettings : sourcedWorld.find settingsFile =
        .ok ([".template-lintrc.toml"], .content nothingAllowed.toUTF8) := rfl
    have hfirst : sourcedWorld.find firstFile = .ok (["a.json"], .content nullsText.toUTF8) := rfl
    rw [hr]
    rintro r h
    cases h
    simp [Request.documents, sampleRequest, Given.path?, hsettings, hfirst]
  obtain ⟨houtcome, hout, herr, -⟩ := source_matters_to_snippets_alone.2 sourcedWorld ["a.json"]
    ["a"] "one line".toUTF8 "".toUTF8 rfl (isSome_decodeText.mpr (String.isValidUTF8 _))
    (isSome_decodeText.mpr (String.isValidUTF8 _)) hdocuments
  exact ⟨houtcome, hout, herr⟩

end TemplateLint
