import TemplateLint.Files.Path

/-! What the program asks of the system that it runs on. -/

namespace TemplateLint

/-- Why a file cannot be opened. -/
inductive FileFault where
  | missing
  | isDirectory
  | notDirectory
  /-- The path holds a character that no path holds. -/
  | badName
  | other
  deriving DecidableEq, Repr

/-- Why a file gives no text. -/
inductive ReadFault where
  | file (path : Path) (fault : FileFault)
  | notUtf8 (bytes : ByteArray)

/-- What the system tells about in words of its own. -/
inductive Obstacle where
  | read (fault : ReadFault)
  /-- A text that is no JSON document. -/
  | json (text : String)
  /-- A text that is no TOML document. -/
  | toml (text : String)

abbrev Wording := Obstacle → String

structure Host (m : Type → Type) where
  read : Path → m (Except FileFault ByteArray)
  isFile : Path → m Bool
  /-- Makes a file that can be appended to. -/
  openLog : Path → m (Except FileFault Unit)
  append : Path → String → m Unit
  writeOut : String → m Unit
  writeErr : String → m Unit
  /-- The date and time for a log record. -/
  stamp : m String
  wording : m Wording

end TemplateLint
