import TemplateLint.Proofs.RunOutcomes

/-!
Loading the configuration from its file, whatever the file holds. Main statement: which files give a
configuration, which are reported as unusable, and which escape every report.
-/

namespace TemplateLint

open Cli

variable {σ : Type} {host : Host (StateM σ)} {path : Path} {known : Option (List String)}
  {read : Except FileFault ByteArray} {bytes : ByteArray} {text : String} {s s' : σ}

/-- The text of what was read. -/
def textOf (path : Path) : Except FileFault ByteArray → Except ReadFault String
  | .error e => .error (.file path e)
  | .ok bytes =>
    match decodeText bytes with
    | none => .error (.notUtf8 bytes)
    | some text => .ok text

theorem Host.readText_eq (host : Host (StateM σ)) (path : Path) (s : σ) :
    host.readText path s = (textOf path (host.read path s).1, (host.read path s).2) := by
  simp only [Host.readText, bind, StateT.bind, textOf]
  rcases host.read path s with ⟨e | bytes, s'⟩
  · rfl
  · cases hd : decodeText bytes with
    | none =>
      simp only [hd]
      rfl
    | some text =>
      simp only [hd]
      rfl

namespace LintConfig

/-- What was read is a text in UTF-8, the text is a TOML document, and the document holds a table of
rules, or none, all of which are known. -/
def Describes (known : Option (List String)) (read : Except FileFault ByteArray)
    (rules : Fields) : Prop :=
  ∃ bytes text data, read = .ok bytes ∧ decodeText bytes = some text ∧ Toml.read text = .ok data ∧
    (data.get? "rules").getD (.table []) = .table rules ∧
    ∀ names, known = some names → ∀ name ∈ rules.names, name ∈ names

/-- What was read escapes every report: bytes that are no UTF-8, a name that no path has, or a number
of too many digits. -/
inductive Escapes (read : Except FileFault ByteArray) : ConfigFault → Prop
  | notUtf8 {bytes : ByteArray} (hread : read = .ok bytes) (hdecode : decodeText bytes = none) :
      Escapes read .notUtf8
  | badName (hread : read = .error .badName) : Escapes read .badName
  | tooManyDigits {bytes : ByteArray} {text : String} {n : Nat} (hread : read = .ok bytes)
      (hdecode : decodeText bytes = some text)
      (htoml : Toml.read text = .error (.tooManyDigits n)) : Escapes read (.tooManyDigits n)

/-- The configuration that is made from what was read of its file. -/
def ofRead (path : Path) (known : Option (List String)) (read : Except FileFault ByteArray) :
    Except ConfigFault LintConfig :=
  (parse path (textOf path read)).bind fun data => (ofFields data known (some path)).mapError .config

theorem load_fst (host : Host (StateM σ)) (path : Path) (known : Option (List String)) (s : σ) :
    (load host path known s).1.1 = ofRead path known (host.read path s).1 := by
  simp only [load, bind, StateT.bind, Host.readText_eq, ofRead]
  cases parse path (textOf path (host.read path s).1) <;> rfl

theorem ofRead_of_text (h : decodeText bytes = some text) (path : Path)
    (known : Option (List String)) :
    ofRead path known (.ok bytes) = match Toml.read text with
      | .error .malformed => .error (.config (.malformed path text))
      | .error (.tooManyDigits n) => .error (.tooManyDigits n)
      | .ok data => (ofFields data known (some path)).mapError .config := by
  simp only [ofRead, textOf, h, parse]
  rcases Toml.read text with (_ | n) | data <;> rfl

theorem ofRead_of_describes (path : Path) {rules : Fields} (h : Describes known read rules) :
    ofRead path known read = .ok ⟨rules, some path⟩ := by
  obtain ⟨bytes, text, data, rfl, hd, ht, hr, hk⟩ := h
  have hf : ofFields data known (some path) = .ok ⟨rules, some path⟩ :=
    ofFields_eq_ok_iff.mpr ⟨rules, hr, hk, rfl⟩
  simp only [ofRead_of_text hd, ht, hf]
  rfl

theorem ofRead_of_escapes (path : Path) (known : Option (List String)) {fault : ConfigFault}
    (h : Escapes read fault) : ofRead path known read = .error fault := by
  cases h with
  | notUtf8 hr hd =>
    simp only [hr, ofRead, textOf, hd]
    rfl
  | badName hr =>
    rw [hr]
    rfl
  | tooManyDigits hr hd ht =>
    rw [hr]
    simp only [ofRead_of_text hd, ht]

theorem ofRead_cases (path : Path) (known : Option (List String))
    (read : Except FileFault ByteArray) :
    (∃ rules, Describes known read rules) ∨ (∃ fault, Escapes read fault) ∨
      ∃ e, ofRead path known read = .error (.config e) := by
  cases read with
  | error e =>
    by_cases he : e = .badName
    · exact .inr (.inl ⟨_, .badName (congrArg Except.error he)⟩)
    · refine .inr (.inr ⟨.unreadable path e, ?_⟩)
      cases e with
      | badName => exact (he rfl).elim
      | _ => rfl
  | ok bytes =>
    cases hd : decodeText bytes with
    | none => exact .inr (.inl ⟨_, .notUtf8 rfl hd⟩)
    | some text =>
      rcases ht : Toml.read text with (_ | n) | data
      · exact .inr (.inr ⟨.malformed path text, by rw [ofRead_of_text hd, ht]⟩)
      · exact .inr (.inl ⟨_, .tooManyDigits rfl hd ht⟩)
      · cases hf : ofFields data known (some path) with
        | ok c =>
          obtain ⟨rules, hr, hk, -⟩ := ofFields_eq_ok_iff.mp hf
          exact .inl ⟨rules, bytes, text, data, rfl, hd, ht, hr, hk⟩
        | error e =>
          refine .inr (.inr ⟨e, ?_⟩)
          simp only [ofRead_of_text hd, ht, hf]
          rfl

theorem Escapes.ne_config {fault : ConfigFault} (h : Escapes read fault) (e : ConfigError) :
    fault ≠ .config e := by
  cases h <;> nofun

theorem ofRead_eq_ok_iff {c : LintConfig} :
    ofRead path known read = .ok c ↔ c.path = some path ∧ Describes known read c.rules := by
  constructor
  · intro h
    rcases ofRead_cases path known read with ⟨rules, hd⟩ | ⟨fault, he⟩ | ⟨e, he⟩
    · rw [ofRead_of_describes path hd] at h
      cases h
      exact ⟨rfl, hd⟩
    · rw [ofRead_of_escapes path known he] at h
      cases h
    · rw [he] at h
      cases h
  · rintro ⟨hp, hd⟩
    rw [ofRead_of_describes path hd, ← hp]

theorem ofRead_eq_error_iff {fault : ConfigFault} (hn : ∀ e, fault ≠ .config e) :
    ofRead path known read = .error fault ↔ Escapes read fault := by
  constructor
  · intro h
    rcases ofRead_cases path known read with ⟨rules, hd⟩ | ⟨fault', he⟩ | ⟨e, he⟩
    · rw [ofRead_of_describes path hd] at h
      cases h
    · rw [ofRead_of_escapes path known he] at h
      cases h
      exact he
    · rw [he] at h
      cases h
      exact (hn e rfl).elim
  · exact ofRead_of_escapes path known

theorem ofRead_eq_config_iff :
    (∃ e, ofRead path known read = .error (.config e)) ↔
      (∀ rules, ¬ Describes known read rules) ∧ ∀ fault, ¬ Escapes read fault := by
  constructor
  · rintro ⟨e, h⟩
    constructor
    · intro rules hd
      rw [ofRead_of_describes path hd] at h
      cases h
    · intro fault he
      rw [ofRead_of_escapes path known he] at h
      cases h
      exact he.ne_config e rfl
  · rintro ⟨hd, he⟩
    rcases ofRead_cases path known read with ⟨rules, h⟩ | ⟨fault, h⟩ | h
    · exact (hd rules h).elim
    · exact (he fault h).elim
    · exact h

end LintConfig

namespace Cli

variable {logger : Log.Logger} {r : Request} {arguments : List String} {given : Given}
  {fault : ConfigFault}

/-- How a run ends that has no configuration. -/
def outcomeOf : ConfigFault → Outcome
  | .config _ => .exit exitUnusable
  | fault => .escaped (.config fault)

theorem exec_loadConfig_error (logger : Log.Logger) (hp : given.path? = some path)
    (hl : (LintConfig.load host path (some Linter.ruleNames) s).1.1 = .error fault) :
    ∃ s', exec (loadConfig host logger given) s = (.error (outcomeOf fault), s') := by
  rw [loadConfig, hp]
  simp only [exec_bind, exec_lift, hl]
  cases fault <;> exact ⟨_, rfl⟩

theorem run_of_load_error (h : Starts host arguments r logger s s')
    (hp : r.config.path? = some path)
    (hl : (LintConfig.load host path (some Linter.ruleNames) s').1.1 = .error fault) :
    (run host arguments s).1 = outcomeOf fault := by
  obtain ⟨s'', he⟩ := exec_loadConfig_error logger hp hl
  rw [run_of_starts h, lintFiles, exec_bind, he]

end Cli

open LintConfig in
/-- What becomes of a configuration file, whatever it holds: it gives a configuration, it is
reported, or it escapes. A run that meets a file that is reported ends with the exit code for
that. -/
theorem config_file_is_reported_unless_it_escapes (host : Host (StateM σ)) (path : Path) (s : σ) :
    (∀ known c, (load host path known s).1.1 = .ok c ↔
      c.path = some path ∧ Describes known (host.read path s).1 c.rules) ∧
    (∀ known fault, (∀ e, fault ≠ .config e) →
      ((load host path known s).1.1 = .error fault ↔ Escapes (host.read path s).1 fault)) ∧
    (∀ known, (∃ e, (load host path known s).1.1 = .error (.config e)) ↔
      (∀ rules, ¬ Describes known (host.read path s).1 rules) ∧
        ∀ fault, ¬ Escapes (host.read path s).1 fault) ∧
    ∀ arguments r logger s₀, Starts host arguments r logger s₀ s → r.config.path? = some path →
      ((∃ e, (load host path (some Linter.ruleNames) s).1.1 = .error (.config e)) →
        (run host arguments s₀).1 = .exit 2) ∧
      ∀ fault, Escapes (host.read path s).1 fault →
        (run host arguments s₀).1 = .escaped (.config fault) := by
  simp only [load_fst]
  refine ⟨fun _ _ => ofRead_eq_ok_iff, fun _ _ => ofRead_eq_error_iff,
    fun _ => ofRead_eq_config_iff, ?_⟩
  intro arguments r logger s₀ hs hp
  constructor
  · rintro ⟨e, h⟩
    rw [← load_fst host] at h
    exact run_of_load_error hs hp h
  · intro fault h
    have hl := ofRead_of_escapes path (some Linter.ruleNames) h
    rw [← load_fst host] at hl
    rw [run_of_load_error hs hp hl]
    cases h <;> rfl

def givenConfig : Request where
  files := [⟨.relative, ["t.json"]⟩]
  config := .path ⟨.relative, ["c.toml"]⟩
  source := .absent
  verbose := false
  logFile := .absent

def givenConfigArguments : List String := ["t.json", "--config", "c.toml"]

theorem starts_givenConfig (w : World) :
    Starts World.host givenConfigArguments givenConfig
      ⟨Log.warning, [Log.Logger.console (logSettings givenConfig) 0]⟩ w w where
  request := rfl
  logFile := nofun
  log := by
    rw [Log.Logger.does_configure_console World.host (logSettings givenConfig) rfl rfl]
    rfl
  source := .inl rfl

/-- A file that is not there is reported. -/
theorem config_file_is_reported_unless_it_escapes_missing :
    (LintConfig.load World.host ⟨.relative, ["c.toml"]⟩ (some Linter.ruleNames) {}).1.1 =
        .error (.config (.unreadable ⟨.relative, ["c.toml"]⟩ .missing)) ∧
      (run World.host givenConfigArguments {}).1 = .exit 2 := by
  have hl : (LintConfig.load World.host ⟨.relative, ["c.toml"]⟩ (some Linter.ruleNames) {}).1.1 =
      .error (.config (.unreadable ⟨.relative, ["c.toml"]⟩ .missing)) := rfl
  obtain ⟨-, -, -, hrun⟩ :=
    config_file_is_reported_unless_it_escapes World.host ⟨.relative, ["c.toml"]⟩ {}
  exact ⟨hl, (hrun _ _ _ _ (starts_givenConfig {}) rfl).1 ⟨_, hl⟩⟩

/-- A world with a configuration file whose one byte begins no character. -/
def strayByteWorld : World :=
  { files := [(["c.toml"], .content ⟨#[0xff]⟩)] }

/-- What is not in UTF-8 is no configuration, and it is not reported as an unusable one. -/
theorem stray_byte_escapes :
    (LintConfig.load World.host ⟨.relative, ["c.toml"]⟩ none strayByteWorld).1.1 =
        .error .notUtf8 ∧
      (run World.host givenConfigArguments strayByteWorld).1 = .escaped (.config .notUtf8) := by
  have hl : (LintConfig.load World.host ⟨.relative, ["c.toml"]⟩ (some Linter.ruleNames)
      strayByteWorld).1.1 = .error .notUtf8 := rfl
  exact ⟨rfl, run_of_load_error (starts_givenConfig strayByteWorld) rfl hl⟩

end TemplateLint
