import TemplateLint.Value.Basic

/-! The kinds of syntax nodes and their names. -/

namespace TemplateLint

inductive Kind where
  | template
  | block
  | blockStatement
  | mustacheStatement
  | subExpression
  | elementModifier
  | path
  | string
  | number
  | boolean
  | null
  | undefined
  | hash
  | hashPair
  | element
  | attr
  | concat
  | text
  | comment
  | mustacheComment
  deriving DecidableEq, Repr

namespace Kind

def all : List Kind :=
  [template, block, blockStatement, mustacheStatement, subExpression, elementModifier, path, string,
    number, boolean, null, undefined, hash, hashPair, element, attr, concat, text, comment,
    mustacheComment]

def name : Kind → String
  | template => "Template"
  | block => "Block"
  | blockStatement => "BlockStatement"
  | mustacheStatement => "MustacheStatement"
  | subExpression => "SubExpression"
  | elementModifier => "ElementModifierStatement"
  | path => "PathExpression"
  | string => "StringLiteral"
  | number => "NumberLiteral"
  | boolean => "BooleanLiteral"
  | null => "NullLiteral"
  | undefined => "UndefinedLiteral"
  | hash => "Hash"
  | hashPair => "HashPair"
  | element => "ElementNode"
  | attr => "AttrNode"
  | concat => "ConcatStatement"
  | text => "TextNode"
  | comment => "CommentStatement"
  | mustacheComment => "MustacheCommentStatement"

def ofName? (s : String) : Option Kind :=
  all.find? (·.name == s)

def ofValue? : Value → Option Kind
  | .text s => ofName? s
  | _ => none

theorem mem_all (k : Kind) : k ∈ all := by
  cases k <;> decide

theorem ofName?_name (k : Kind) : ofName? k.name = some k := by
  cases k <;> decide

end Kind

end TemplateLint
