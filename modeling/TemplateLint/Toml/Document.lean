import TemplateLint.Value.Basic

/-!
A configuration document under construction: its tables, and which of them may still be opened or
changed.
-/

namespace TemplateLint.Toml

abbrev KeyPath := List String

inductive Mark where
  /-- A header or a dotted key has made the table; no header may name it again. -/
  | declared
  /-- The value was written in one piece; nothing at the path or below it may change. -/
  | frozen
  deriving DecidableEq, Repr

abbrev Marks := List (KeyPath × Mark)

namespace Marks

def isDeclared (marks : Marks) (path : KeyPath) : Bool :=
  marks.contains (path, .declared)

def isFrozen (marks : Marks) (path : KeyPath) : Bool :=
  marks.any fun (p, mark) => mark = .frozen && p.isPrefixOf path

/-- Takes the marks off a path and all below it. -/
def release (marks : Marks) (path : KeyPath) : Marks :=
  marks.filter fun (p, _) => !path.isPrefixOf p

end Marks

/-- Changes the table at a path. Missing tables on the way are made. A list on the way, where lists
are passed through, stands for its last element. -/
def modifyAt (throughLists : Bool) (change : Fields → Option Fields) :
    KeyPath → Fields → Option Fields
  | [], fields => change fields
  | name :: rest, fields =>
    match fields.get? name with
    | none => do
      let inner ← modifyAt throughLists change rest []
      return Named.set fields name (.table inner)
    | some (.table inner) => do
      let inner ← modifyAt throughLists change rest inner
      return Named.set fields name (.table inner)
    | some (.list items) =>
      match throughLists, items.getLast? with
      | true, some (.table inner) => do
        let inner ← modifyAt throughLists change rest inner
        return Named.set fields name (.list (items.dropLast ++ [.table inner]))
      | _, _ => none
    | some _ => none

/-- Writes a field that is not there yet. -/
def insertNew (name : String) (v : Value) (fields : Fields) : Option Fields :=
  match fields.get? name with
  | some _ => none
  | none => some (Named.set fields name v)

/-- Appends an empty table to the list of a field. -/
def appendTable (name : String) (fields : Fields) : Option Fields :=
  match fields.get? name with
  | none => some (Named.set fields name (.list [.table []]))
  | some (.list items) => some (Named.set fields name (.list (items ++ [.table []])))
  | some _ => none

/-- Whether a value, once written, cannot be changed piece by piece. -/
def isComposite : Value → Bool
  | .list _ | .table _ => true
  | _ => false

structure Document where
  tables : Fields := []
  marks : Marks := []
  /-- Tables made by dotted keys; they count as declared from the next header on. -/
  pending : List KeyPath := []

namespace Document

def settle (d : Document) : Document :=
  { d with marks := d.marks ++ d.pending.map (·, .declared), pending := [] }

/-- Opens the table of a header. -/
def openTable (d : Document) (path : KeyPath) : Option Document := do
  let d := d.settle
  guard !(d.marks.isDeclared path || d.marks.isFrozen path)
  let tables ← modifyAt true some path d.tables
  return { d with tables, marks := (path, .declared) :: d.marks }

/-- Opens a new element of the list of tables that a header names. -/
def openElement (d : Document) (path : KeyPath) : Option Document := do
  let d := d.settle
  guard !d.marks.isFrozen path
  let tables ← modifyAt true (appendTable (path.getLastD "")) path.dropLast d.tables
  return { d with tables, marks := (path, .declared) :: d.marks.release path }

/-- The tables on the way of a dotted key, from the outermost. -/
def between (header key : KeyPath) : List KeyPath :=
  (List.range (key.length - 1)).map fun i => header ++ key.take (i + 1)

/-- Writes a value under the table of the latest header. -/
def insert (d : Document) (header key : KeyPath) (v : Value) : Option Document := do
  let passed := between header key
  guard !passed.any d.marks.isDeclared
  let parent := header ++ key.dropLast
  guard !d.marks.isFrozen parent
  let tables ← modifyAt true (insertNew (key.getLastD "") v) parent d.tables
  let marks := if isComposite v then (header ++ key, .frozen) :: d.marks else d.marks
  return ⟨tables, marks, d.pending ++ passed⟩

end Document

/-- An inline table under construction: its fields, and the paths that were written in one piece. -/
structure Inline where
  fields : Fields := []
  marks : Marks := []

def Inline.insert (t : Inline) (key : KeyPath) (v : Value) : Option Inline := do
  guard !t.marks.isFrozen key
  let fields ← modifyAt false (insertNew (key.getLastD "") v) key.dropLast t.fields
  return ⟨fields, if isComposite v then (key, .frozen) :: t.marks else t.marks⟩

end TemplateLint.Toml
