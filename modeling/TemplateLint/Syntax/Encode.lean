import TemplateLint.Syntax.Node

/-! The canonical document of a syntax tree. -/

namespace TemplateLint

def Position.encode (p : Position) : Value :=
  .table [("line", .int p.line), ("column", .int p.column)]

def Location.encode : Option Location → Value
  | none => .null
  | some l => .table [("start", l.start.encode), ("end", l.stop.encode)]

def PathExpression.encode (p : PathExpression) : Value :=
  .table [("type", .text Kind.path.name), ("original", p.written), ("loc", Location.encode p.loc)]

namespace Encode

def names (ns : List String) : Value := .list (ns.map .text)

/-- An object of a kind. -/
def object (kind : Kind) (fields : Fields) (loc : Option Location) : Value :=
  .table (("type", .text kind.name) :: fields ++ [("loc", Location.encode loc)])

mutual

def node : Node → Value
  | .template body ns loc =>
    object .template [("body", .list (nodes body)), ("blockParams", names ns)] loc
  | .block b => block b
  | .blockStatement p params h program inverse loc =>
    object .blockStatement
      [("path", p.encode), ("params", .list (nodes params)), ("hash", hash h),
        ("program", block program), ("inverse", optionalBlock inverse)] loc
  | .mustacheStatement callee params h trusting loc =>
    object .mustacheStatement
      [("path", node callee), ("params", .list (nodes params)), ("hash", hash h),
        ("trusting", .bool trusting)] loc
  | .subExpression p params h loc =>
    object .subExpression
      [("path", p.encode), ("params", .list (nodes params)), ("hash", hash h)] loc
  | .elementModifier p params h loc =>
    object .elementModifier
      [("path", p.encode), ("params", .list (nodes params)), ("hash", hash h)] loc
  | .path p => p.encode
  | .string value loc => object .string [("value", value)] loc
  | .number value loc => object .number [("value", value)] loc
  | .boolean value loc => object .boolean [("value", value)] loc
  | .null loc => object .null [] loc
  | .undefined loc => object .undefined [] loc
  | .hash h => hash h
  | .hashPair p => pair p
  | .element tag attributes modifiers children ns selfClosing loc =>
    object .element
      [("tag", tag), ("attributes", .list (nodes attributes)),
        ("modifiers", .list (nodes modifiers)), ("children", .list (nodes children)),
        ("blockParams", names ns), ("selfClosing", .bool selfClosing)] loc
  | .attr name value loc => object .attr [("name", name), ("value", node value)] loc
  | .concat parts loc => object .concat [("parts", .list (nodes parts))] loc
  | .text chars loc => object .text [("chars", chars)] loc
  | .comment value loc => object .comment [("value", value)] loc
  | .mustacheComment value loc => object .mustacheComment [("value", value)] loc

def nodes : List Node → List Value
  | [] => []
  | n :: rest => node n :: nodes rest

def block : Block → Value
  | ⟨body, ns, loc⟩ => object .block [("body", .list (nodes body)), ("blockParams", names ns)] loc

def optionalBlock : Option Block → Value
  | none => .null
  | some b => block b

def hash : Hash → Value
  | ⟨pairs, loc⟩ => object .hash [("pairs", .list (allPairs pairs))] loc

def allPairs : List HashPair → List Value
  | [] => []
  | p :: rest => pair p :: allPairs rest

def pair : HashPair → Value
  | ⟨key, value, loc⟩ => object .hashPair [("key", .text key), ("value", node value)] loc

end

theorem node_block (b : Block) : node (.block b) = block b := by rw [node]

theorem node_hash (h : Hash) : node (.hash h) = hash h := by rw [node]

theorem nodes_eq (vs : List Node) : nodes vs = vs.map node := by
  induction vs with
  | nil => rfl
  | cons v rest ih => rw [nodes, ih, List.map_cons]

theorem allPairs_eq (ps : List HashPair) : allPairs ps = ps.map pair := by
  induction ps with
  | nil => rfl
  | cons p rest ih => rw [allPairs, ih, List.map_cons]

theorem texts?_names (ns : List String) : (names ns).texts? = some ns := by
  rw [names, Value.texts?]
  induction ns with
  | nil => rfl
  | cons n rest ih =>
    rw [List.map_cons, List.mapM_cons, ih]
    rfl

end Encode

/-- Writes a syntax tree. -/
def Node.encode (n : Node) : Value := Encode.node n

end TemplateLint
