/-! Paths by their parts. -/

namespace TemplateLint

/-- Where a path starts. Two slashes in front are kept apart from one. -/
inductive Root where
  | relative
  | slash
  | doubleSlash
  deriving DecidableEq, Repr

def Root.display : Root → String
  | relative => ""
  | slash => "/"
  | doubleSlash => "//"

/-- A path without empty parts and without parts that stand for their directory. -/
structure Path where
  root : Root
  parts : List String
  deriving DecidableEq, Repr

namespace Path

/-- The pieces between slashes. -/
def pieces : List Char → List (List Char)
  | [] => [[]]
  | c :: rest =>
    if c = '/' then [] :: pieces rest
    else
      match pieces rest with
      | [] => [[c]]
      | piece :: more => (c :: piece) :: more

def rootOf : List Char → Root
  | '/' :: '/' :: '/' :: _ => .slash
  | '/' :: '/' :: _ => .doubleSlash
  | '/' :: _ => .slash
  | _ => .relative

def ofString (s : String) : Path :=
  let parts := ((pieces s.toList).map String.ofList).filter fun p => p ≠ "" && p ≠ "."
  ⟨rootOf s.toList, parts⟩

/-- A path of no parts is written as its root, or as the present directory. -/
def display (p : Path) : String :=
  match p.root, p.parts with
  | .relative, [] => "."
  | root, parts => root.display ++ "/".intercalate parts

/-- The place of the point before the extension of a name: neither its first nor its last
character. -/
def extensionStart? (name : List Char) : Option Nat :=
  let after := name.reverse.takeWhile (· ≠ '.')
  if after.isEmpty ∨ name.length ≤ after.length + 1 then none
  else some (name.length - after.length - 1)

/-- The extension of the last part, with its point. -/
def extension (p : Path) : String :=
  let name := (p.parts.getLastD "").toList
  match extensionStart? name with
  | none => ""
  | some n => String.ofList (name.drop n)

/-- The path with the extension of its last part taken off. -/
def withoutExtension (p : Path) : Path :=
  match p.parts.getLast? with
  | none => p
  | some last =>
    match extensionStart? last.toList with
    | none => p
    | some n => { p with parts := p.parts.dropLast ++ [String.ofList (last.toList.take n)] }

/-- Each parent part takes the part before it away; a part that stands for its directory goes. -/
def foldParents (parts : List String) : List String :=
  parts.foldl (fun done part =>
    if part = ".." then done.dropLast else if part = "." then done else done ++ [part]) []

end Path

end TemplateLint
