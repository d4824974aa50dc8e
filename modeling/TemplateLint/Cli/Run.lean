import TemplateLint.Cli.Arguments
import TemplateLint.Lint.Config
import TemplateLint.Lint.Linter
import TemplateLint.Lint.Template
import TemplateLint.Log.Logger

/-! A run of the program: from the command line to the reports and the exit code. -/

namespace TemplateLint.Cli

open Log (Logger Record)

def exitClean : Nat := 0

def exitViolations : Nat := 1

def exitUnusable : Nat := 2

/-- A fault that no message of the program is about. -/
inductive Escape where
  /-- A file is needed where the option for it was given none. -/
  | noFile (flag : Flag)
  | logSetup (e : Log.SetupFault)
  | config (e : ConfigFault)
  | template (e : TemplateFault)
  | lint (e : LintFault)

inductive Outcome where
  | exit (code : Nat)
  /-- The command line asks for no run. -/
  | usage (code : Nat)
  | escaped (fault : Escape)

def programName : String := "invocable-lint"

def usageText : String :=
  "usage: invocable-lint [-h] [--config CONFIG] [--source SOURCE] [--verbose]\n"
    ++ "                      [--log-file LOG_FILE]\n"
    ++ "                      ast [ast ...]\n"

def helpText : String :=
  usageText
    ++ "\nReport blacklisted helper/component invocations in templates.\n"
    ++ "\npositional arguments:\n"
    ++ "  ast                  JSON dump(s) of a Glimmer template AST.\n"
    ++ "\noptions:\n"
    ++ "  -h, --help           show this help message and exit\n"
    ++ "  --config CONFIG      Lint configuration file (default: .template-lintrc.toml).\n"
    ++ "  --source SOURCE      Template source for snippets (only with a single AST file).\n"
    ++ "  --verbose            Emit debug logging to stderr.\n"
    ++ "  --log-file LOG_FILE  Also write debug logging to this file.\n"

variable {m : Type → Type} [Monad m]

/-- Tells about a command line that asks for no run. -/
def stop (host : Host m) : Stop → m Outcome
  | .help => do
    host.writeOut helpText
    return .usage exitClean
  | .error e => do
    host.writeErr (usageText ++ programName ++ ": error: " ++ e.message ++ "\n")
    return .usage exitUnusable

/-- A report of a violation: a position that is not known is written as a question mark. -/
def reportLine (path : Path) (v : Violation) : String :=
  path.display ++ ":" ++ v.line.elim "?" toString ++ ":" ++ v.column.elim "?" toString ++ ": "
    ++ v.message ++ " (" ++ v.rule ++ ")\n"

/-- The log of a run: with a log file it takes all records, and the console those of the verbosity
that was asked for. -/
def logSettings (r : Request) : Log.Settings :=
  let level := if r.verbose then Log.debug else Log.warning
  { logFile := r.logFile.path?
    level := if r.logFile.isAbsent then level else Log.debug
    consoleLevel := level }

def errorRecord (message : String) : Record :=
  ⟨Log.rootChannel, Log.error, message⟩

/-- The message about a template that cannot be loaded. -/
def unloadable (path : Path) (e : TemplateFault) (wording : Wording) : String :=
  "Cannot load " ++ path.display ++ ": " ++ e.message wording

/-- A step of a run, which goes on or ends the run. -/
abbrev RunM (m : Type → Type) := ExceptT Outcome m

def logAll (host : Host m) (logger : Logger) (records : List Record) : RunM m Unit :=
  ExceptT.lift (records.forM (logger.log host))

/-- Logs an error, in part in the words of the system, and ends the run. -/
def fail {α : Type} (host : Host m) (logger : Logger) (message : Wording → String) :
    RunM m α := do
  let wording ← ExceptT.lift host.wording
  logAll host logger [errorRecord (message wording)]
  throw (.exit exitUnusable)

/-- Ends the run at a setting that is not accepted, and tells why if that can be written. -/
def refuse {α : Type} (host : Host m) (logger : Logger) (e : SettingError) : RunM m α :=
  match e.text? with
  | some message => fail host logger fun _ => message
  | none => throw (.escaped (.lint (.setting e)))

def loadConfig (host : Host m) (logger : Logger) (given : Given) : RunM m LintConfig := do
  let some path := given.path? | throw (.escaped (.noFile .config))
  let (loaded, records) ← ExceptT.lift (LintConfig.load host path (some Linter.ruleNames))
  logAll host logger records
  match loaded with
  | .ok config => return config
  | .error (.config e) => fail host logger fun wording => e.message wording
  | .error e => throw (.escaped (.config e))

/-- Loads a template and its source. -/
def loadTemplate (host : Host m) (logger : Logger) (path : Path) (source : Given) :
    RunM m (Node × String) := do
  match ← ExceptT.lift (Template.load host path) with
  | .error (.decode .infinitePosition) => throw (.escaped (.template (.decode .infinitePosition)))
  | .error e => fail host logger (unloadable path e)
  | .ok tree =>
    if source = .nothing then throw (.escaped (.noFile .source))
    match ← ExceptT.lift (Template.source host path source.path?) with
    | .error e => fail host logger (unloadable path (.read e))
    | .ok s => return (tree, s)

/-- Lints a template and reports its violations. Gives their number. -/
def lintFile (host : Host m) (logger : Logger) (config : LintConfig) (source : Given)
    (path : Path) : RunM m Nat := do
  let (tree, s) ← loadTemplate host logger path source
  let (result, records) := (Linter.lint tree config.rules s).run.run #[]
  logAll host logger records.toList
  match result with
  | .error (.setting e) => refuse host logger e
  | .error e => throw (.escaped (.lint e))
  | .ok violations =>
    ExceptT.lift (violations.forM fun v => host.writeOut (reportLine path v))
    return violations.length

def summary (files violations : Nat) : Record :=
  ⟨Log.rootChannel, Log.debug,
    "Linted " ++ toString files ++ " file(s), " ++ toString violations ++ " violation(s)"⟩

/-- Lints the files one after the other. -/
def lintFiles (host : Host m) (logger : Logger) (r : Request) : RunM m Outcome := do
  let config ← loadConfig host logger r.config
  let counts ← r.files.mapM (lintFile host logger config r.source)
  let found := counts.foldl (· + ·) 0
  logAll host logger [summary r.files.length found]
  return .exit (if found = 0 then exitClean else exitViolations)

/-- Runs a request. The log is set up before the request itself is checked. -/
def perform (host : Host m) (r : Request) : m Outcome := do
  if r.logFile = .nothing then return .escaped (.noFile .logFile)
  let (ready, logger) ← Logger.configure host (logSettings r) 0
  match ready with
  | .error e => return .escaped (.logSetup e)
  | .ok () =>
    if !r.source.isAbsent && 1 < r.files.length then stop host (.error .sourceOfMany)
    else
      match ← (lintFiles host logger r).run with
      | .ok outcome => return outcome
      | .error outcome => return outcome

def run (host : Host m) (arguments : List String) : m Outcome := do
  match Request.ofArguments arguments with
  | .error s => stop host s
  | .ok r => perform host r

end TemplateLint.Cli
