import TemplateLint.Files.Host
import TemplateLint.Log.Layout

/-!
Where log records go. Each setting up of the logger replaces its outputs: one console, and one file
when a file is given.
-/

namespace TemplateLint.Log

inductive Sink where
  /-- The error stream that was current, by its number. -/
  | console (stream : Nat)
  | file (path : Path)
  deriving DecidableEq, Repr

/-- An output without a layout takes no record. -/
structure Output where
  sink : Sink
  level : Int
  layout : Option Layout
  deriving DecidableEq, Repr

/-- What an output adds for a record that it takes: the entry of the record, or else, where the entry
cannot be written, a report to the current error stream. -/
def Output.delivery (output : Output) (stream : Nat) (o : Occasion) (r : Record) : Sink × String :=
  match output.layout.bind (·.write? o r) with
  | some text => (output.sink, text ++ "\n")
  | none => (.console stream, o.report)

structure Logger where
  level : Int := 0
  outputs : List Output := []
  deriving DecidableEq, Repr

structure Settings where
  logFile : Option Path := none
  level : Int := warning
  consoleLevel : Int := warning
  fileLevel : Int := debug
  format : String := defaultFormat

inductive SetupFault where
  | badFormat (format : String)
  | logFile (fault : FileFault)
  deriving DecidableEq, Repr

def SetupFault.message : SetupFault → String
  | badFormat format => "Invalid format '" ++ format ++ "' for '%' style"
  | logFile _ => "cannot open the log file"

/-- An empty format stands for the message alone. -/
def effectiveFormat (format : String) : String :=
  if format = "" then "%(message)s" else format

namespace Logger

def console (s : Settings) (stream : Nat) : Output :=
  ⟨.console stream, s.consoleLevel, pieces? (effectiveFormat s.format).toList⟩

def logFile (s : Settings) (path : Path) : Output :=
  ⟨.file path, s.fileLevel, pieces? (effectiveFormat s.format).toList⟩

def setLevel (l : Logger) (level : Int) : Logger := { l with level }

def clearOutputs (l : Logger) : Logger := { l with outputs := [] }

def addOutput (l : Logger) (o : Output) : Logger := { l with outputs := l.outputs ++ [o] }

variable {m : Type → Type} [Monad m]

/-- Sets a logger up anew: its outputs give way to those of the settings. After a fault it keeps the
outputs that were ready before it. -/
def reconfigure (host : Host m) (l : Logger) (s : Settings) (stream : Nat) :
    m (Except SetupFault Unit × Logger) := do
  let cleared := (l.setLevel s.level).clearOutputs
  let format := effectiveFormat s.format
  if !holdsField format.toList then return (.error (.badFormat format), cleared)
  let ready := cleared.addOutput (console s stream)
  match s.logFile with
  | none => return (.ok (), ready)
  | some path =>
    match ← host.openLog path with
    | .error e => return (.error (.logFile e), ready)
    | .ok () => return (.ok (), ready.addOutput (logFile s path))

/-- Sets up the logger of a program that has not logged yet. -/
def configure (host : Host m) (s : Settings) (stream : Nat) : m (Except SetupFault Unit × Logger) :=
  reconfigure host {} s stream

/-- Whether a channel is that of the program or below it. -/
def covers (channel : String) : Bool :=
  channel = rootChannel || (rootChannel ++ ".").toList.isPrefixOf channel.toList

/-- The least level that is logged; without a level of its own a logger takes warnings. -/
def effectiveLevel (l : Logger) : Int :=
  if l.level = 0 then warning else l.level

/-- What a record adds to which sinks. A record that no output is there for goes to the current
error stream with its message alone, from warnings on. -/
def deliveries (l : Logger) (stream : Nat) (o : Occasion) (r : Record) : List (Sink × String) :=
  let outputs := if covers r.channel then l.outputs else []
  let least := if covers r.channel then l.effectiveLevel else warning
  if r.level ≤ 0 ∨ r.level < least then []
  else if outputs.isEmpty then
    if warning ≤ r.level then [(.console stream, r.message ++ "\n")] else []
  else
    (outputs.filter (·.level ≤ r.level)).map (·.delivery stream o r)

/-- Sends a record out on a host with one error stream. The host tells the date and time alone, which
is all that the format of the program asks for. -/
def log (host : Host m) (l : Logger) (r : Record) : m Unit := do
  let stamp ← host.stamp
  (l.deliveries 0 { stamp } r).forM fun (sink, text) =>
    match sink with
    | .console _ => host.writeErr text
    | .file path => host.append path text

end Logger

end TemplateLint.Log
