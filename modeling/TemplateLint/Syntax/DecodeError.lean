import TemplateLint.Value.Display

/-! Why a value is not a syntax tree. -/

namespace TemplateLint

inductive DecodeError where
  | notNode (found : Value)
  | notNodes (found : Value)
  | notHash (found : Value)
  | notPairs (found : Value)
  | notBlock (found : Value)
  | notNames (found : Value)
  | notPath (kind : Value)
  | pairKey (found : Value)
  /-- The owner is what the object gives as its type. -/
  | missing (owner : Value) (key : String)
  | unknownKind (kind : Value)
  /-- A line or a column is an infinite number. -/
  | infinitePosition
  deriving Repr, BEq

def DecodeError.message : DecodeError → String
  | notNode found => "Expected a node object, got " ++ found.kindName
  | notNodes found => "Expected a list of nodes, got " ++ found.kindName
  | notHash found => "Expected a Hash object, got " ++ found.kindName
  | notPairs found => "Hash pairs must be a list, got " ++ found.kindName
  | notBlock found => "Expected a Block object, got " ++ found.kindName
  | notNames found => "blockParams must be a list of names, got " ++ found.display
  | notPath kind => "Expected PathExpression, got " ++ kind.display
  | pairKey found => "HashPair key must be a string, got " ++ found.display
  | missing owner key => owner.plain ++ " is missing required " ++ Text.quoted key
  | unknownKind kind => "Unknown node type: " ++ kind.display
  | infinitePosition => "a line or a column is infinite"

end TemplateLint
