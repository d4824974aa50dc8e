import TemplateLint.Files.Host
import TemplateLint.Text.Lines

/-! Text files: UTF-8 with any line ends. -/

namespace TemplateLint

/-- The text of a file's bytes, with every line end as a line feed. -/
def decodeText (bytes : ByteArray) : Option String :=
  (String.fromUTF8? bytes).map fun s => String.ofList (Text.unifyLineEnds s.toList)

variable {m : Type → Type} [Monad m]

def Host.readText (host : Host m) (p : Path) : m (Except ReadFault String) := do
  match ← host.read p with
  | .error e => return .error (.file p e)
  | .ok bytes =>
    match decodeText bytes with
    | none => return .error (.notUtf8 bytes)
    | some s => return .ok s

end TemplateLint
