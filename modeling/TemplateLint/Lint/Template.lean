import TemplateLint.Files.Text
import TemplateLint.Json.Reader
import TemplateLint.Syntax.Decode

/-!
Templates from files: a JSON document of the syntax tree, and the source beside it. Documents that
escape a surrogate on its own are left out, as `Json.ofUnits` does not keep it.
-/

namespace TemplateLint

inductive TemplateFault where
  | read (fault : ReadFault)
  | json (fault : Json.Fault) (text : String)
  | decode (error : DecodeError)
  | notTemplate (path : Path)

def TemplateFault.message (wording : Wording) : TemplateFault → String
  | read fault => wording (.read fault)
  | json .malformed text => wording (.json text)
  | json fault _ => fault.message
  | decode error => error.message
  | notTemplate path => "Expected a Template root node in " ++ path.display

namespace Template

/-- The tree of a document that was read from a file. -/
def ofText (path : Path) (s : String) : Except TemplateFault Node := do
  let v ← (Json.read s).mapError (.json · s)
  let node ← (Node.decode v).mapError .decode
  match node with
  | .template .. => return node
  | _ => throw (.notTemplate path)

variable {m : Type → Type} [Monad m]

def load (host : Host m) (path : Path) : m (Except TemplateFault Node) := do
  return ((← host.readText path).mapError .read).bind (ofText path)

/-- The source of a template: the given file, or else the file of the same name without `.json`
when there is one, or else nothing. -/
def source (host : Host m) (path : Path) (given : Option Path) : m (Except ReadFault String) := do
  match given with
  | some p => host.readText p
  | none =>
    let beside := path.withoutExtension
    if path.extension = ".json" then
      if ← host.isFile beside then return ← host.readText beside
    return .ok ""

end Template

end TemplateLint
