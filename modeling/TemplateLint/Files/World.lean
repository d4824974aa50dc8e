import TemplateLint.Files.Host

/-! A closed world to run in: files, and what was written to the two streams. -/

namespace TemplateLint

inductive File where
  | content (bytes : ByteArray)
  | directory

/-- Files by the names on the way to them from the root of the world. -/
structure World where
  files : List (List String × File) := []
  workingDirectory : List String := []
  out : String := ""
  err : String := ""
  stamp : String := ""
  wording : Wording := fun _ => ""

namespace World

def file? (w : World) (place : List String) : Option File :=
  if place.isEmpty then some .directory else w.files.lookup place

def setFile (w : World) (place : List String) (f : File) : World :=
  { w with files := (place, f) :: w.files.filter (·.1 ≠ place) }

def start (w : World) (p : Path) : List String :=
  match p.root with
  | .relative => w.workingDirectory
  | _ => []

/-- Follows the parts of a path. Every part but the last must name a directory. -/
def follow (w : World) (place : List String) : List String → Except FileFault (List String × File)
  | [] =>
    match w.file? place with
    | none => .error .missing
    | some f => .ok (place, f)
  | part :: rest =>
    match w.file? place with
    | none => .error .missing
    | some (.content _) => .error .notDirectory
    | some .directory =>
      w.follow (if part = ".." then place.dropLast else if part = "." then place else place ++ [part])
        rest

def badName (p : Path) : Bool :=
  p.parts.any fun part => part.toList.contains '\x00'

def find (w : World) (p : Path) : Except FileFault (List String × File) :=
  if badName p then .error .badName else w.follow (w.start p) p.parts

def read (w : World) (p : Path) : Except FileFault ByteArray := do
  match ← w.find p with
  | (_, .content bytes) => return bytes
  | (_, .directory) => throw .isDirectory

def isFile (w : World) (p : Path) : Bool :=
  match w.find p with
  | .ok (_, .content _) => true
  | _ => false

/-- The place of a log file: parent parts of its path are taken by name. -/
def logPlace (w : World) (p : Path) : List String :=
  Path.foldParents (w.start p ++ p.parts)

def openLog (w : World) (p : Path) : Except FileFault World :=
  if badName p then .error .badName
  else
    let place := w.logPlace p
    match w.follow [] place with
    | .ok (_, .content _) => .ok w
    | .ok (_, .directory) => .error .isDirectory
    | .error .missing =>
      match w.follow [] place.dropLast with
      | .ok (_, .directory) => .ok (w.setFile place (.content .empty))
      | .ok (_, .content _) => .error .notDirectory
      | .error e => .error e
    | .error e => .error e

def append (w : World) (p : Path) (s : String) : World :=
  let place := w.logPlace p
  match w.file? place with
  | some (.content bytes) => w.setFile place (.content (bytes ++ s.toUTF8))
  | _ => w

/-- The closed world as a host. -/
def host : Host (StateM World) where
  read p := return (← get).read p
  isFile p := return (← get).isFile p
  openLog p := do
    match (← get).openLog p with
    | .ok w => set w; return .ok ()
    | .error e => return .error e
  append p s := modify (·.append p s)
  writeOut s := modify fun w => { w with out := w.out ++ s }
  writeErr s := modify fun w => { w with err := w.err ++ s }
  stamp := return (← get).stamp
  wording := return (← get).wording

end World

end TemplateLint
