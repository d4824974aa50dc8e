import TemplateLint.Syntax.Kind
import TemplateLint.Syntax.Location
import TemplateLint.Value.Basic

/-! The syntax tree of a template. Texts and numbers in it are kept as the document gives them. -/

namespace TemplateLint

structure PathExpression where
  written : Value
  loc : Option Location
  deriving Repr

mutual

inductive Node where
  | template (body : List Node) (blockParams : List String) (loc : Option Location)
  | block (block : Block)
  | blockStatement (path : PathExpression) (params : List Node) (hash : Hash) (program : Block)
      (inverse : Option Block) (loc : Option Location)
  | mustacheStatement (path : Node) (params : List Node) (hash : Hash) (trusting : Bool)
      (loc : Option Location)
  | subExpression (path : PathExpression) (params : List Node) (hash : Hash)
      (loc : Option Location)
  | elementModifier (path : PathExpression) (params : List Node) (hash : Hash)
      (loc : Option Location)
  | path (path : PathExpression)
  | string (value : Value) (loc : Option Location)
  | number (value : Value) (loc : Option Location)
  | boolean (value : Value) (loc : Option Location)
  | null (loc : Option Location)
  | undefined (loc : Option Location)
  | hash (hash : Hash)
  | hashPair (pair : HashPair)
  | element (tag : Value) (attributes modifiers children : List Node) (blockParams : List String)
      (selfClosing : Bool) (loc : Option Location)
  | attr (name : Value) (value : Node) (loc : Option Location)
  | concat (parts : List Node) (loc : Option Location)
  | text (chars : Value) (loc : Option Location)
  | comment (value : Value) (loc : Option Location)
  | mustacheComment (value : Value) (loc : Option Location)
  deriving Repr

/-- The body of a block statement, with the names that it binds. -/
structure Block where
  body : List Node
  blockParams : List String
  loc : Option Location
  deriving Repr

/-- The named arguments of an invocation. -/
structure Hash where
  pairs : List HashPair
  loc : Option Location
  deriving Repr

structure HashPair where
  key : String
  value : Node
  loc : Option Location
  deriving Repr

end

def Block.empty : Block := ⟨[], [], none⟩

def Hash.empty : Hash := ⟨[], none⟩

def Hash.keys (h : Hash) : List String := h.pairs.map (·.key)

namespace Node

def kind : Node → Kind
  | template .. => .template
  | block _ => .block
  | blockStatement .. => .blockStatement
  | mustacheStatement .. => .mustacheStatement
  | subExpression .. => .subExpression
  | elementModifier .. => .elementModifier
  | path _ => .path
  | string .. => .string
  | number .. => .number
  | boolean .. => .boolean
  | null _ => .null
  | undefined _ => .undefined
  | hash _ => .hash
  | hashPair _ => .hashPair
  | element .. => .element
  | attr .. => .attr
  | concat .. => .concat
  | text .. => .text
  | comment .. => .comment
  | mustacheComment .. => .mustacheComment

def loc : Node → Option Location
  | template _ _ loc => loc
  | block b => b.loc
  | blockStatement _ _ _ _ _ loc => loc
  | mustacheStatement _ _ _ _ loc => loc
  | subExpression _ _ _ loc => loc
  | elementModifier _ _ _ loc => loc
  | path p => p.loc
  | string _ loc => loc
  | number _ loc => loc
  | boolean _ loc => loc
  | null loc => loc
  | undefined loc => loc
  | hash h => h.loc
  | hashPair p => p.loc
  | element _ _ _ _ _ _ loc => loc
  | attr _ _ loc => loc
  | concat _ loc => loc
  | text _ loc => loc
  | comment _ loc => loc
  | mustacheComment _ loc => loc

/-- The callee of an invocation. -/
def callee? : Node → Option Node
  | blockStatement p .. => some (path p)
  | mustacheStatement p .. => some p
  | subExpression p .. => some (path p)
  | elementModifier p .. => some (path p)
  | _ => none

/-- The positional arguments of an invocation; none for other nodes. -/
def params : Node → List Node
  | blockStatement _ ps .. => ps
  | mustacheStatement _ ps .. => ps
  | subExpression _ ps .. => ps
  | elementModifier _ ps .. => ps
  | _ => []

/-- The named arguments of an invocation. -/
def hash? : Node → Option Hash
  | blockStatement _ _ h .. => some h
  | mustacheStatement _ _ h .. => some h
  | subExpression _ _ h _ => some h
  | elementModifier _ _ h _ => some h
  | _ => none

/-- The names of the named arguments; none for other nodes. -/
def hashKeys (n : Node) : List String :=
  n.hash?.elim [] Hash.keys

/-- The name or value that a path or a literal was written with. -/
def written? : Node → Option Value
  | path p => some p.written
  | string value _ => some value
  | number value _ => some value
  | boolean value _ => some value
  | _ => none

/-- The names that a node binds: a block statement binds those of its program. -/
def binds : Node → List String
  | template _ names _ => names
  | block b => b.blockParams
  | blockStatement _ _ _ program _ _ => program.blockParams
  | element _ _ _ _ names _ _ => names
  | _ => []

end Node

end TemplateLint
