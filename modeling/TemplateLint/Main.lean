import Std.Time.Format
import TemplateLint.Cli.Run

/-! The command of the program on the system that it runs on. -/

namespace TemplateLint

def FileFault.ofError : IO.Error → FileFault
  | .noFileOrDirectory .. => .missing
  | .inappropriateType .. => .isDirectory
  | _ => .other

def FileFault.message : FileFault → String
  | missing => "No such file or directory"
  | isDirectory => "Is a directory"
  | notDirectory => "Not a directory"
  | badName => "embedded null byte"
  | other => "The file cannot be read"

def Machine.attempt {α : Type} (act : IO α) : IO (Except FileFault α) := do
  try
    return .ok (← act)
  catch e =>
    return .error (FileFault.ofError e)

def Machine.isFile (p : Path) : IO Bool := do
  let place ← IO.FS.realPath p.display
  return (← place.metadata).type == .file

/-- The full path of a log file: parent parts are taken by name. -/
def Machine.logPath (p : Path) : IO String := do
  let here := Path.ofString (← IO.FS.realPath ".").toString
  let start := if p.root = .relative then here.parts else []
  return "/" ++ "/".intercalate (Path.foldParents (start ++ p.parts))

def Machine.wording : Wording
  | .read (.file path fault) => fault.message ++ ": " ++ Text.quoted path.display
  | .read (.notUtf8 _) => "not in UTF-8"
  | .json _ => "no JSON document"
  | .toml _ => "no TOML document"

def Machine.host : Host IO where
  read p := attempt (IO.FS.readBinFile p.display)
  isFile p := do
    match ← attempt (isFile p) with
    | .ok found => return found
    | .error _ => return false
  openLog p := attempt do
    let _ ← IO.FS.Handle.mk (← logPath p) .append
  append p s := do
    let log ← IO.FS.Handle.mk (← logPath p) .append
    log.putStr s
    log.flush
  writeOut s := do
    let out ← IO.getStdout
    out.putStr s
    out.flush
  writeErr s := do
    let err ← IO.getStderr
    err.putStr s
    err.flush
  wording := return wording
  stamp := return (← Std.Time.PlainDateTime.now).format "uuuu-MM-dd HH:mm:ss,SSS"

def Cli.Escape.message : Cli.Escape → String
  | noFile flag => "argument " ++ flag.display ++ ": no file given"
  | logSetup e => e.message
  | config e => e.message Machine.wording
  | template e => e.message Machine.wording
  | lint e => e.message

/-- The exit code of an outcome; a fault is told on the error stream. -/
def Cli.Outcome.finish : Cli.Outcome → IO UInt32
  | exit code => return code.toUInt32
  | usage code => return code.toUInt32
  | escaped e => do
    Machine.host.writeErr (Cli.programName ++ ": " ++ e.message ++ "\n")
    return 1

end TemplateLint

def main (arguments : List String) : IO UInt32 := do
  (← TemplateLint.Cli.run TemplateLint.Machine.host arguments).finish
