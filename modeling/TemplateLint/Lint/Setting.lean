import TemplateLint.Json.Writer
import TemplateLint.Lint.Blacklist
import TemplateLint.Number.Decimal

/-! The setting of the rule: what is accepted, and what a blacklist it gives. -/

namespace TemplateLint

/-- Why a setting is not accepted. -/
inductive Complaint where
  | notList
  | badEntry
  | badAttributes
  deriving DecidableEq, Repr

/-- What would have been accepted. -/
def Complaint.accepted : Complaint → List String
  | notList => ["  * array of strings (helpers or components to blacklist)"]
  | badEntry =>
    ["  * array of strings or objects with \"name\" key - helpers or components to blacklist"]
  | badAttributes => ["  * \"withAttributes\" must be an array of attribute names"]

/-- The text about a setting that is not accepted: what would be, and the setting itself. -/
def complaintText (rule : String) (accepted : List String) (config : Value) : String :=
  "\n".intercalate
    (("The " ++ rule ++ " rule accepts one of the following values.") :: accepted
      ++ ["You specified `" ++ Json.write config ++ "`"])

def Complaint.message (c : Complaint) (rule : String) (config : Value) : String :=
  complaintText rule c.accepted config

/-- The text of a complaint; none when the setting holds an integer that is too long to be written. -/
def Complaint.text? (c : Complaint) (rule : String) (config : Value) : Option String :=
  if Json.isWritable config then some (c.message rule config) else none

/-- An entry of the setting: a name, and the named arguments that an invocation must pass. -/
structure Entry where
  name : String
  attributes : List String
  deriving DecidableEq, Repr

def Entry.decode : Value → Except Complaint Entry
  | .text name => .ok ⟨name, []⟩
  | .table (fields : Fields) =>
    match fields.getD "name" with
    | .text name =>
      match fields.getD "withAttributes" with
      | .null => .ok ⟨name, []⟩
      | attributes =>
        match attributes.texts? with
        | some names => .ok ⟨name, names⟩
        | none => .error .badAttributes
    | _ => .error .badEntry
  | _ => .error .badEntry

/-- A later entry overrides an earlier one of its name. -/
def Blacklist.ofEntries (entries : List Entry) : Blacklist :=
  entries.foldl (fun b e => Named.set b e.name (.passes e.attributes)) .base

inductive Setting where
  | disabled
  | compiled (blacklist : Blacklist)
  | problem (complaint : Complaint)

/-- True turns the rule on with an empty list. -/
def Setting.classify : Value → Setting
  | .null | .bool false => .disabled
  | .bool true => .compiled .base
  | .list items =>
    match items.mapM Entry.decode with
    | .ok entries => .compiled (.ofEntries entries)
    | .error complaint => .problem complaint
  | _ => .problem .notList

/-- A setting that a rule does not accept. -/
structure SettingError where
  rule : String
  config : Value
  complaint : Complaint

def SettingError.text? (e : SettingError) : Option String :=
  e.complaint.text? e.rule e.config

/-- Where the complaint cannot be written, the message is about that. -/
def SettingError.message (e : SettingError) : String :=
  e.text?.getD Number.tooLongToWrite

/-- The blacklist of a setting; none when the rule is off. -/
def Setting.compile (rule : String) (config : Value) : Except SettingError (Option Blacklist) :=
  match classify config with
  | .disabled => .ok none
  | .compiled blacklist => .ok (some blacklist)
  | .problem complaint => .error ⟨rule, config, complaint⟩

end TemplateLint
