import TemplateLint.Lint.Rule

/-! Linting of a template under a table of rules. -/

namespace TemplateLint

open Log (Record)

inductive LintFault where
  | unknownRule (name : String)
  | setting (e : SettingError)
  | check (e : CheckFault)

def LintFault.message : LintFault → String
  | unknownRule name => "Unknown rule '" ++ name ++ "'"
  | setting e => e.message
  | check e => e.message

/-- A run with its log. What was logged before a fault remains logged. -/
abbrev LintM := ExceptT LintFault (StateM (Array Record))

namespace Linter

/-- The names of all rules. -/
def ruleNames : List String := [Rule.name]

def logAll (records : List Record) : LintM Unit :=
  modify fun log => log.appendList records

def setUp (source name : String) (config : Value) : LintM Rule := do
  unless ruleNames.contains name do throw (.unknownRule name)
  match Rule.ofSetting config source with
  | .error e => throw (.setting e)
  | .ok rule =>
    logAll [Rule.settingRecord rule.blacklist]
    return rule

/-- The rules of a table that are not turned off, in the order of the table. -/
def setUpAll (rules : Fields) (source : String) : LintM (List Rule) := do
  let all ← rules.mapM fun (name, config) => setUp source name config
  return all.filter Rule.enabled

def runRule (tree : Node) (rule : Rule) : LintM (List Violation) := do
  let (outcome, walk) := rule.walk tree
  logAll walk.records
  match outcome with
  | .ok () => return rule.violations walk
  | .error e => throw (.check e)

/-- The violations of all rules, by place. -/
def lint (tree : Node) (rules : Fields) (source : String) : LintM (List Violation) := do
  let ready ← setUpAll rules source
  let found ← ready.mapM (runRule tree)
  return Violation.sort found.flatten

end Linter

end TemplateLint
