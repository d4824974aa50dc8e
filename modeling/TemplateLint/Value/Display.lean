import TemplateLint.Number.Layout
import TemplateLint.Text.Quoted
import TemplateLint.Value.Basic

/-! Values as messages show them. -/

namespace TemplateLint.Value

mutual

/-- The written form, with quoted text. -/
def display : Value → String
  | null => "None"
  | bool b => if b then "True" else "False"
  | int n => toString n
  | float x => Number.Layout.plain.write x
  | text s => Text.quoted s
  | moment m => m.display
  | list items => "[" ++ ", ".intercalate (displayItems items) ++ "]"
  | table fields => "\x7b" ++ ", ".intercalate (displayFields fields) ++ "\x7d"

def displayItems : List Value → List String
  | [] => []
  | v :: rest => v.display :: displayItems rest

def displayFields : List (String × Value) → List String
  | [] => []
  | (name, v) :: rest => (Text.quoted name ++ ": " ++ v.display) :: displayFields rest

end

/-- Like `display`, but a text stands without quotes. -/
def plain : Value → String
  | text s => s
  | v => v.display

/-- A list of names as a message shows it. -/
def displayNames (names : List String) : String :=
  (list (names.map text)).display

end TemplateLint.Value
