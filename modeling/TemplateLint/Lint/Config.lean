import TemplateLint.Files.Text
import TemplateLint.Log.Record
import TemplateLint.Text.Names
import TemplateLint.Toml.Reader

/-! The configuration of a run: the settings of the rules by name. -/

namespace TemplateLint

structure LintConfig where
  rules : Fields
  path : Option Path

/-- A configuration that cannot be used. -/
inductive ConfigError where
  | unreadable (path : Path) (fault : FileFault)
  | malformed (path : Path) (text : String)
  | rulesNotTable (path : Option Path)
  | unknownRules (names : List String) (path : Option Path)
  deriving DecidableEq, Repr

/-- How messages name a configuration. -/
def ConfigError.place (path : Option Path) : String :=
  path.elim "<config>" Path.display

def ConfigError.message (wording : Wording) : ConfigError → String
  | unreadable path fault =>
    "Cannot read lint config " ++ path.display ++ ": " ++ wording (.read (.file path fault))
  | malformed path text =>
    "Invalid lint config " ++ path.display ++ ": " ++ wording (.toml text)
  | rulesNotTable path => "[rules] must be a table: " ++ place path
  | unknownRules names path => "Unknown rule(s) " ++ ", ".intercalate names ++ " in " ++ place path

/-- Why no configuration was loaded: it cannot be used, or its file holds no text that the reader
takes at all. -/
inductive ConfigFault where
  | config (e : ConfigError)
  | notUtf8
  | badName
  | tooManyDigits (count : Nat)
  deriving DecidableEq, Repr

def ConfigFault.message (wording : Wording) : ConfigFault → String
  | config e => e.message wording
  | notUtf8 => "the file is not in UTF-8"
  | badName => "embedded null byte"
  | tooManyDigits count => Number.tooManyDigits count

namespace LintConfig

/-- The record of a file that was read and is well formed. -/
def loadedRecord (path : Path) : Log.Record :=
  ⟨Log.configChannel, Log.debug, "Loaded lint config from " ++ path.display⟩

/-- The names that are not known, in ascending order. -/
def unknownNames (rules : Fields) (known : List String) : List String :=
  Text.sortedNames (rules.names.filter fun name => !known.contains name)

/-- Takes the table of rules, empty when absent. Where names are given as known, it holds no
others. -/
def ofFields (data : Fields) (known : Option (List String)) (path : Option Path) :
    Except ConfigError LintConfig :=
  match (data.get? "rules").getD (.table []) with
  | .table rules =>
    let unknown := known.elim [] (unknownNames rules)
    if unknown.isEmpty then .ok ⟨rules, path⟩ else .error (.unknownRules unknown path)
  | _ => .error (.rulesNotTable path)

theorem mem_unknownNames {rules : Fields} {known : List String} {name : String} :
    name ∈ unknownNames rules known ↔ name ∈ rules.names ∧ name ∉ known := by
  simp [unknownNames, Text.mem_sortedNames, List.mem_filter]

theorem unknownNames_eq_nil_iff {rules : Fields} {known : List String} :
    unknownNames rules known = [] ↔ ∀ name ∈ rules.names, name ∈ known := by
  simp [List.eq_nil_iff_forall_not_mem, mem_unknownNames]

/-- A configuration is taken when it has a table of rules, or none, all of which are known. -/
theorem ofFields_eq_ok_iff {data : Fields} {known : Option (List String)} {path : Option Path}
    {c : LintConfig} :
    ofFields data known path = .ok c ↔
      ∃ rules : Fields, (data.get? "rules").getD (.table []) = .table rules ∧
        (∀ names, known = some names → ∀ name ∈ rules.names, name ∈ names) ∧
        c = ⟨rules, path⟩ := by
  constructor
  · intro h
    unfold ofFields at h
    split at h
    · rename_i rules hr
      refine ⟨rules, hr, ?_⟩
      simp only at h
      split at h
      · rename_i hu
        cases h
        refine ⟨?_, rfl⟩
        rintro names rfl
        exact unknownNames_eq_nil_iff.mp (List.isEmpty_iff.mp hu)
      · cases h
    · cases h
  · rintro ⟨rules, hr, hk, rfl⟩
    have hu : known.elim [] (unknownNames rules) = [] := by
      cases known with
      | none => rfl
      | some names => exact unknownNames_eq_nil_iff.mpr (hk names rfl)
    simp [ofFields, hr, hu]

/-- The fields of a file that was read. -/
def parse (path : Path) : Except ReadFault String → Except ConfigFault Fields
  | .error (.notUtf8 _) => .error .notUtf8
  | .error (.file _ .badName) => .error .badName
  | .error (.file _ fault) => .error (.config (.unreadable path fault))
  | .ok s =>
    match Toml.read s with
    | .ok data => .ok data
    | .error .malformed => .error (.config (.malformed path s))
    | .error (.tooManyDigits count) => .error (.tooManyDigits count)

variable {m : Type → Type} [Monad m]

/-- Loads a configuration; the record says that the file was read. -/
def load (host : Host m) (path : Path) (known : Option (List String)) :
    m (Except ConfigFault LintConfig × List Log.Record) := do
  match parse path (← host.readText path) with
  | .error e => return (.error e, [])
  | .ok data => return ((ofFields data known (some path)).mapError .config, [loadedRecord path])

end LintConfig

end TemplateLint
