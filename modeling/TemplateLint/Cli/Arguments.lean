import TemplateLint.Files.Path
import TemplateLint.Text.DecimalDigit
import TemplateLint.Text.Quoted

/-!
The command line. An option may be cut short while it stays the only one with that beginning. The
files to lint stand together; what follows in a second place is not recognized.
-/

namespace TemplateLint.Cli

inductive Flag where
  | help
  | config
  | source
  | verbose
  | logFile
  deriving DecidableEq, Repr

namespace Flag

def spellings : List (String × Flag) :=
  [("-h", help), ("--help", help), ("--config", config), ("--source", source),
    ("--verbose", verbose), ("--log-file", logFile)]

def takesValue : Flag → Bool
  | config | source | logFile => true
  | help | verbose => false

/-- All spellings of an option, as messages name it. -/
def display (f : Flag) : String :=
  "/".intercalate ((spellings.filter (·.2 = f)).map (·.1))

def ofSpelling? (s : String) : Option Flag := spellings.lookup s

end Flag

inductive UsageError where
  | ambiguous (argument : String) (spellings : List String)
  | missingValue (flag : Flag)
  | needlessValue (flag : Flag) (value : String)
  | missingFiles
  | unrecognized (arguments : List String)
  /-- A source is given for more than one file. -/
  | sourceOfMany
  deriving DecidableEq, Repr

def UsageError.message : UsageError → String
  | ambiguous argument spellings =>
    "ambiguous option: " ++ argument ++ " could match " ++ ", ".intercalate spellings
  | missingValue flag => "argument " ++ flag.display ++ ": expected one argument"
  | needlessValue flag value =>
    "argument " ++ flag.display ++ ": ignored explicit argument " ++ Text.quoted value
  | missingFiles => "the following arguments are required: ast"
  | unrecognized arguments => "unrecognized arguments: " ++ " ".intercalate arguments
  | sourceOfMany => "--source can only be used with a single AST file"

inductive Token where
  /-- Two dashes: all that follows is positional. -/
  | separator
  | positional (s : String)
  /-- An option, with the value that is attached by an equals sign. -/
  | option (flag : Flag) (value : Option String)
  /-- The short option for help with more in the same argument. -/
  | cluster (letters : List Char)
  | unknown (s : String)
  deriving DecidableEq, Repr

/-- The parts before and after the first equals sign. -/
def splitValue (s : List Char) : String × Option String :=
  let before := s.takeWhile (· ≠ '=')
  match s.dropWhile (· ≠ '=') with
  | [] => (String.ofList before, none)
  | _ :: value => (String.ofList before, some (String.ofList value))

/-- A negative number, which is positional: a dash, digits, and a point before digits if any. -/
def isNegativeNumber (s : List Char) : Bool :=
  match s with
  | '-' :: digits =>
    let digits := if digits.getLast? = some '\n' then digits.dropLast else digits
    let isDigit c := (Text.digitValue? c).isSome
    match digits.dropWhile isDigit with
    | [] => !digits.isEmpty
    | '.' :: fraction => !fraction.isEmpty && fraction.all isDigit
    | _ => false
  | _ => false

/-- What an argument that is no option by its beginning is taken for. -/
def otherToken (s : String) : Token :=
  if isNegativeNumber s.toList || s.toList.contains ' ' then .positional s else .unknown s

def token (s : String) : Except UsageError Token :=
  match s.toList with
  | '-' :: '-' :: name =>
    let (before, value) := splitValue ('-' :: '-' :: name)
    match Flag.ofSpelling? before with
    | some flag => .ok (.option flag value)
    | none =>
      match Flag.spellings.filter fun (spelling, _) => before.toList.isPrefixOf spelling.toList with
      | [] => .ok (otherToken s)
      | [(_, flag)] => .ok (.option flag value)
      | several => .error (.ambiguous s (several.map (·.1)))
  | ['-', 'h'] => .ok (.option .help none)
  | '-' :: 'h' :: '=' :: letters | '-' :: 'h' :: letters => .ok (.cluster letters)
  | '-' :: _ :: _ => .ok (otherToken s)
  | _ => .ok (.positional s)

def tokens : List String → Except UsageError (List Token)
  | [] => .ok []
  | s :: rest =>
    if s = "--" then .ok (.separator :: rest.map .positional)
    else do return (← token s) :: (← tokens rest)

/-- What an option that names a file was given. -/
inductive Given where
  | absent
  /-- Two dashes attached to the option name no file. -/
  | nothing
  | path (p : Path)
  deriving DecidableEq, Repr

def Given.ofString (value : String) : Given :=
  if value = "--" then .nothing else .path (Path.ofString value)

def Given.isAbsent : Given → Bool
  | .absent => true
  | _ => false

def Given.path? : Given → Option Path
  | .path p => some p
  | _ => none

/-- Why a command line gives no run. -/
inductive Stop where
  | help
  | error (e : UsageError)
  deriving DecidableEq, Repr

/-- The files to lint while a command line is read. -/
inductive Files where
  | none
  /-- The latest argument belongs to them. -/
  | current (files : List String)
  | complete (files : List String)
  deriving DecidableEq, Repr

def Files.close : Files → Files
  | .current files => .complete files
  | files => files

structure Arguments where
  files : Files := .none
  config : Given := .path ⟨.relative, [".template-lintrc.toml"]⟩
  source : Given := .absent
  verbose : Bool := false
  logFile : Given := .absent
  /-- The option that still waits for its value. -/
  waiting : Option Flag := none
  unrecognized : List String := []
  deriving DecidableEq, Repr

namespace Arguments

def setValue (a : Arguments) (flag : Flag) (value : String) : Arguments :=
  let given := Given.ofString value
  match flag with
  | .config => { a with config := given }
  | .source => { a with source := given }
  | .logFile => { a with logFile := given }
  | .help | .verbose => a

def option (a : Arguments) (flag : Flag) (value : Option String) : Except Stop Arguments :=
  match flag.takesValue, value with
  | true, some value => .ok (a.setValue flag value)
  | true, none => .ok { a with waiting := some flag }
  | false, some value => .error (.error (.needlessValue flag value))
  | false, none =>
    match flag with
    | .help => .error .help
    | _ => .ok { a with verbose := true }

/-- What follows the short option for help: the same letter again asks for the same, and all else is
a value, which it does not take. -/
def clusterStop : List Char → Stop
  | ['h'] => .help
  | 'h' :: letters => clusterStop letters
  | letters => .error (.needlessValue .help (String.ofList letters))

def positional (a : Arguments) (s : String) : Arguments :=
  match a.files with
  | .none => { a with files := .current [s] }
  | .current files => { a with files := .current (files ++ [s]) }
  | .complete _ => { a with unrecognized := a.unrecognized ++ [s] }

/-- Reads one more argument. -/
def step (a : Arguments) (t : Token) : Except Stop Arguments :=
  match a.waiting, t with
  | some flag, .positional s => .ok { a.setValue flag s with waiting := none }
  | some flag, _ => .error (.error (.missingValue flag))
  | none, .positional s => .ok (a.positional s)
  | none, .separator =>
    match a.files with
    | .complete _ => .ok { a with unrecognized := a.unrecognized ++ ["--"] }
    | _ => .ok a
  | none, .option flag value => { a with files := a.files.close }.option flag value
  | none, .cluster letters => .error (clusterStop letters)
  | none, .unknown s =>
    .ok { a with files := a.files.close, unrecognized := a.unrecognized ++ [s] }

end Arguments

/-- A run that a command line asks for. -/
structure Request where
  files : List Path
  config : Given
  source : Given
  verbose : Bool
  logFile : Given
  deriving DecidableEq, Repr

/-- What the arguments ask for once all are read. -/
def Arguments.request (a : Arguments) : Except Stop Request :=
  match a.waiting with
  | some flag => .error (.error (.missingValue flag))
  | none =>
    match a.files with
    | .none => .error (.error .missingFiles)
    | .current files | .complete files =>
      if a.unrecognized.isEmpty then
        .ok ⟨files.map Path.ofString, a.config, a.source, a.verbose, a.logFile⟩
      else .error (.error (.unrecognized a.unrecognized))

def Request.ofArguments (arguments : List String) : Except Stop Request := do
  let ts ← (tokens arguments).mapError .error
  let a ← ts.foldlM Arguments.step {}
  a.request

end TemplateLint.Cli
