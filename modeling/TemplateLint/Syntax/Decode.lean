import TemplateLint.Syntax.DecodeError
import TemplateLint.Syntax.Node
import TemplateLint.Text.Integer

/-!
Syntax trees from values. An object names its kind in the field `type`, and its place in `loc`; a
place that is not well formed counts as missing.
-/

namespace TemplateLint

/-- A line or a column: a truth value, a number without its fraction, or a written integer. -/
def Position.coordinate (fields : Fields) (name : String) :
    OptionT (Except DecodeError) Int :=
  match fields.get? name with
  | some (.bool b) => pure (if b then 1 else 0)
  | some (.int n) => pure n
  | some (.float (.infinite _)) => OptionT.lift (.error .infinitePosition)
  | some (.float x) => OptionT.mk (pure x.truncate?)
  | some (.text s) => OptionT.mk (pure (Text.integer? s))
  | _ => failure

def Position.decode (fields : Fields) : OptionT (Except DecodeError) Position := do
  let line ← coordinate fields "line"
  let column ← coordinate fields "column"
  return ⟨line, column⟩

/-- The place that an object gives. Without an end it ends where it starts. -/
def Location.decode (fields : Fields) : Except DecodeError (Option Location) :=
  match fields.get? "loc" with
  | some (.table (loc : Fields)) =>
    match loc.get? "start" with
    | some (.table start) => OptionT.run do
      let first ← Position.decode start
      let last ← Position.decode (match loc.get? "end" with | some (.table stop) => stop | _ => start)
      return ⟨first, last⟩
    | _ => return none
  | _ => return none

namespace Decode

def require (fields : Fields) (key : String) : Except DecodeError Value :=
  match fields.get? key with
  | some v => .ok v
  | none => .error (.missing ((fields.get? "type").getD (.text "node")) key)

def blockParams (fields : Fields) : Except DecodeError (List String) :=
  match fields.getD "blockParams" with
  | .null => .ok []
  | v =>
    match v.texts? with
    | some names => .ok names
    | none => .error (.notNames v)

/-- Whether a mustache writes its value unescaped. -/
def trusting (fields : Fields) : Bool :=
  match fields.get? "trusting" with
  | some v => v.truthy
  | none => !((fields.get? "escaped").getD (.bool true)).truthy

mutual

def node (v : Value) : Except DecodeError Node :=
  match v with
  | .table fields => object fields
  | v => .error (.notNode v)
termination_by (sizeOf v, 0)

def object (fields : Fields) : Except DecodeError Node := do
  let loc ← Location.decode fields
  let kind := fields.getD "type"
  match Kind.ofValue? kind with
  | some .template => return .template (← nodes fields "body") (← blockParams fields) loc
  | some .block => return .block (← blockObject fields)
  | some .blockStatement =>
    let path ← path fields
    let params ← nodes fields "params"
    let hash ← hash fields
    let program ← program fields
    let inverse ← inverse fields
    return .blockStatement path params hash program inverse loc
  | some .mustacheStatement =>
    let callee ← required fields "path"
    let params ← nodes fields "params"
    let hash ← hash fields
    return .mustacheStatement callee params hash (trusting fields) loc
  | some .subExpression =>
    return .subExpression (← path fields) (← nodes fields "params") (← hash fields) loc
  | some .elementModifier =>
    return .elementModifier (← path fields) (← nodes fields "params") (← hash fields) loc
  | some .path => return .path ⟨← require fields "original", loc⟩
  | some .string => return .string (← require fields "value") loc
  | some .number => return .number (← require fields "value") loc
  | some .boolean => return .boolean (← require fields "value") loc
  | some .null => return .null loc
  | some .undefined => return .undefined loc
  | some .hash => return .hash (← hashObject fields)
  | some .element =>
    let tag ← require fields "tag"
    let attributes ← nodes fields "attributes"
    let modifiers ← nodes fields "modifiers"
    let children ← nodes fields "children"
    let names ← blockParams fields
    return .element tag attributes modifiers children names (fields.getD "selfClosing").truthy loc
  | some .attr =>
    let name ← require fields "name"
    let value ← required fields "value"
    return .attr name value loc
  | some .concat => return .concat (← nodes fields "parts") loc
  | some .text => return .text ((fields.get? "chars").getD (.text "")) loc
  | some .comment => return .comment ((fields.get? "value").getD (.text "")) loc
  | some .mustacheComment => return .mustacheComment ((fields.get? "value").getD (.text "")) loc
  | some .hashPair | none => throw (.unknownKind kind)
termination_by (sizeOf fields, 2)

/-- The node of a field that must be there. -/
def required (fields : Fields) (key : String) : Except DecodeError Node :=
  match h : fields.get? key with
  | some v =>
    have := Named.sizeOf_get?_lt h
    node v
  | none => .error (.missing ((fields.get? "type").getD (.text "node")) key)
termination_by (sizeOf fields, 0)

/-- The path of an invocation that can only be a path. -/
def path (fields : Fields) : Except DecodeError PathExpression :=
  match h : fields.get? "path" with
  | some v => do
    have := Named.sizeOf_get?_lt h
    match ← node v with
    | .path p => return p
    | _ => throw (.notPath (v.field "type"))
  | none => .error (.missing ((fields.get? "type").getD (.text "node")) "path")
termination_by (sizeOf fields, 0)

/-- The nodes of a field; an absent field holds none. -/
def nodes (fields : Fields) (key : String) : Except DecodeError (List Node) :=
  match h : fields.get? key with
  | none | some .null => .ok []
  | some (.list items) =>
    have := Fields.sizeOf_list_lt h
    all items
  | some v => .error (.notNodes v)
termination_by (sizeOf fields, 0)

def all (items : List Value) : Except DecodeError (List Node) :=
  match items with
  | [] => .ok []
  | v :: rest => return (← node v) :: (← all rest)
termination_by (sizeOf items, 0)

/-- The named arguments of an invocation; what counts as false gives none. -/
def hash (fields : Fields) : Except DecodeError Hash :=
  match h : fields.get? "hash" with
  | none => .ok .empty
  | some (.table given) =>
    have := Fields.sizeOf_table_lt h
    if given.isEmpty then .ok .empty else hashObject given
  | some v => if v.truthy then .error (.notHash v) else .ok .empty
termination_by (sizeOf fields, 0)

def hashObject (fields : Fields) : Except DecodeError Hash := do
  let pairs ← pairs fields
  return ⟨pairs, ← Location.decode fields⟩
termination_by (sizeOf fields, 1)

def pairs (fields : Fields) : Except DecodeError (List HashPair) :=
  match h : fields.get? "pairs" with
  | none => .ok []
  | some (.list items) =>
    have := Fields.sizeOf_list_lt h
    allPairs items
  | some v => if v.truthy then .error (.notPairs v) else .ok []
termination_by (sizeOf fields, 0)

def allPairs (items : List Value) : Except DecodeError (List HashPair) :=
  match items with
  | [] => .ok []
  | v :: rest => return (← pair v) :: (← allPairs rest)
termination_by (sizeOf items, 0)

def pair (v : Value) : Except DecodeError HashPair :=
  match v with
  | .table (fields : Fields) => do
    match ← require fields "key" with
    | .text key =>
      let value ← required fields "value"
      return ⟨key, value, ← Location.decode fields⟩
    | found => throw (.pairKey found)
  | v => .error (.notNode v)
termination_by (sizeOf v, 0)

/-- The program of a block statement; null stands for an empty one. -/
def program (fields : Fields) : Except DecodeError Block :=
  match h : fields.get? "program" with
  | none => .error (.missing ((fields.get? "type").getD (.text "node")) "program")
  | some .null => .ok .empty
  | some (.table given) =>
    have := Fields.sizeOf_table_lt h
    blockObject given
  | some v => .error (.notBlock v)
termination_by (sizeOf fields, 0)

def inverse (fields : Fields) : Except DecodeError (Option Block) :=
  match h : fields.get? "inverse" with
  | none | some .null => .ok none
  | some (.table given) => do
    have := Fields.sizeOf_table_lt h
    return some (← blockObject given)
  | some v => .error (.notBlock v)
termination_by (sizeOf fields, 0)

/-- A block, whatever the object gives as its type. -/
def blockObject (fields : Fields) : Except DecodeError Block := do
  let body ← nodes fields "body"
  let names ← blockParams fields
  return ⟨body, names, ← Location.decode fields⟩
termination_by (sizeOf fields, 1)

end

end Decode

/-- Reads a syntax tree. -/
def Node.decode (v : Value) : Except DecodeError Node := Decode.node v

end TemplateLint
