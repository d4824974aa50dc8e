import TemplateLint.Lint.Checker
import TemplateLint.Lint.Setting
import TemplateLint.Lint.Snippet
import TemplateLint.Lint.Violation
import TemplateLint.Log.Record
import TemplateLint.Syntax.Decode

/-! The rule against blacklisted invocations, set up for one template source. -/

namespace TemplateLint

open Log (Record)

/-- The message about a name that is not to be invoked. -/
def blacklistedMessage (name : String) : String :=
  "Cannot use blacklisted helper or component '\x7b\x7b" ++ name ++ "\x7d\x7d'"

/-- A rule without a blacklist is turned off. -/
structure Rule where
  blacklist : Option Blacklist
  source : String

namespace Rule

def name : String := "invocable-blacklist"

def enabled (r : Rule) : Bool := r.blacklist.isSome

/-- The record of a setting that was accepted. -/
def settingRecord : Option Blacklist → Record
  | none => ⟨Log.configChannel, Log.debug, name ++ " disabled"⟩
  | some b =>
    ⟨Log.configChannel, Log.debug,
      name ++ " blacklist compiled: " ++ Value.displayNames (Text.sortedNames b.listed)⟩

def ofSetting (config : Value) (source : String) : Except SettingError Rule :=
  return ⟨← Setting.compile name config, source⟩

end Rule

def Finding.violation (source : String) (f : Finding) : Violation where
  rule := Rule.name
  message := blacklistedMessage f.label
  line := f.node.loc.map (·.start.line)
  column := f.node.loc.map (·.start.column)
  source := Location.snippet f.node.loc source

def Event.finding? : Event → Option Finding
  | .found f => some f
  | _ => none

def Event.record : Event → Record
  | .pushed depth frame =>
    ⟨Log.scopeChannel, Log.debug,
      "push frame " ++ toString depth ++ ": " ++ Value.displayNames frame.names⟩
  | .popped depth => ⟨Log.scopeChannel, Log.debug, "pop frame " ++ toString depth⟩
  | .shadowed name =>
    ⟨Log.checkChannel, Log.debug, name ++ " is shadowed by a block param, skipping"⟩
  | .found f => ⟨Log.ruleChannel, Log.debug, (f.violation "").display⟩

def Walk.findings (w : Walk) : List Finding :=
  w.trace.toList.filterMap Event.finding?

def Walk.records (w : Walk) : List Record :=
  w.trace.toList.map Event.record

namespace Rule

/-- Walks a tree, from outside all blocks. -/
def walk (r : Rule) (tree : Node) : Except CheckFault Unit × Walk :=
  match r.blacklist with
  | none => (.ok (), {})
  | some b => (tree.traverse b.visitor).run.run {}

def violations (r : Rule) (w : Walk) : List Violation :=
  w.findings.map (Finding.violation r.source)

/-- What a rule has seen of several trees: the scope that the latest walk left, and all that was
reported. -/
structure History where
  scope : Option Scope := none
  results : List Violation := []

inductive StepFault where
  | decode (e : DecodeError)
  | check (e : CheckFault)

/-- Reads one more tree and walks it. A tree that cannot be read leaves the history as it was. -/
def step (r : Rule) (h : History) (document : Value) : Except StepFault Unit × History :=
  match Node.decode document with
  | .error e => (.error (.decode e), h)
  | .ok tree =>
    let (outcome, w) := r.walk tree
    (outcome.mapError .check, ⟨some w.scope, h.results ++ r.violations w⟩)

theorem step_of_decode {document : Value} {tree : Node} (hd : Node.decode document = .ok tree)
    (r : Rule) (h : History) :
    r.step h document = ((r.walk tree).1.mapError .check,
      ⟨some (r.walk tree).2.scope, h.results ++ r.violations (r.walk tree).2⟩) := by
  rw [step, hd]

theorem step_of_unreadable {document : Value} {e : DecodeError}
    (hd : Node.decode document = .error e) (r : Rule) (h : History) :
    r.step h document = (.error (.decode e), h) := by
  rw [step, hd]

end Rule

end TemplateLint
