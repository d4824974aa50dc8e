import TemplateLint.Number.Double
import TemplateLint.Value.Moment
import TemplateLint.Value.Named

/-! The values that documents and configuration files hold. -/

namespace TemplateLint

/-- A table keeps the order of its fields; a name counts at its first place. A text is one of
characters: texts with a surrogate that stands alone are left out. -/
inductive Value where
  | null
  | bool (b : Bool)
  | int (n : Int)
  | float (x : Double)
  | text (s : String)
  | moment (m : Moment)
  | list (items : List Value)
  | table (fields : List (String × Value))
  deriving Repr

namespace Value

instance : Inhabited Value := ⟨null⟩

mutual

def isSame : Value → Value → Bool
  | null, null => true
  | bool a, bool b => a = b
  | int m, int n => m = n
  | float x, float y => x = y
  | text s, text t => s = t
  | moment m, moment n => m = n
  | list vs, list ws => areSame vs ws
  | table vs, table ws => areSameFields vs ws
  | _, _ => false

def areSame : List Value → List Value → Bool
  | [], [] => true
  | v :: vs, w :: ws => v.isSame w && areSame vs ws
  | _, _ => false

def areSameFields : List (String × Value) → List (String × Value) → Bool
  | [], [] => true
  | (m, v) :: vs, (n, w) :: ws => m = n && v.isSame w && areSameFields vs ws
  | _, _ => false

end

mutual

theorem isSame_iff (v w : Value) : v.isSame w = true ↔ v = w := by
  cases v <;> cases w <;> simp [isSame, areSame_iff, areSameFields_iff]

theorem areSame_iff (vs ws : List Value) : areSame vs ws = true ↔ vs = ws := by
  cases vs <;> cases ws <;> simp [areSame, isSame_iff, areSame_iff]

theorem areSameFields_iff (vs ws : List (String × Value)) :
    areSameFields vs ws = true ↔ vs = ws := by
  match vs, ws with
  | [], [] | [], _ :: _ | _ :: _, [] => simp [areSameFields]
  | (m, v) :: vs, (n, w) :: ws =>
    simp [areSameFields, isSame_iff, areSameFields_iff, and_assoc]

end

instance : DecidableEq Value := fun v w => decidable_of_iff _ (isSame_iff v w)

/-- What counts as false: null, zero and what is empty. -/
def truthy : Value → Bool
  | null => false
  | bool b => b
  | int n => n ≠ 0
  | float x => !x.isZero
  | text s => s ≠ ""
  | moment _ => true
  | list items => !items.isEmpty
  | table fields => !fields.isEmpty

/-- The names of the kinds in messages. -/
def kindName : Value → String
  | null => "NoneType"
  | bool _ => "bool"
  | int _ => "int"
  | float _ => "float"
  | text _ => "str"
  | moment (.date _) => "date"
  | moment (.time _) => "time"
  | moment (.dateTime ..) => "datetime"
  | list _ => "list"
  | table _ => "dict"

def text? : Value → Option String
  | text s => some s
  | _ => none

/-- The texts of a list that holds nothing else. -/
def texts? : Value → Option (List String)
  | list items => items.mapM text?
  | _ => none

end Value

/-- The fields of a table. -/
abbrev Fields := Named Value

namespace Fields

variable {fields inner : Fields} {name : String} {items : List Value}

/-- The value of a field, where an absent field counts as null. -/
def getD (fields : Fields) (name : String) : Value :=
  (fields.get? name).getD .null

theorem sizeOf_list_lt (h : fields.get? name = some (.list items)) :
    sizeOf items < sizeOf fields := by
  have := Named.sizeOf_get?_lt h
  simp only [Value.list.sizeOf_spec] at this
  omega

theorem sizeOf_table_lt (h : fields.get? name = some (.table inner)) :
    sizeOf inner < sizeOf fields := by
  have := Named.sizeOf_get?_lt h
  simp only [Value.table.sizeOf_spec] at this
  omega

end Fields

/-- The value of a field; what is not a table has no fields. -/
def Value.field (v : Value) (name : String) : Value :=
  match v with
  | .table fields => Fields.getD fields name
  | _ => .null

end TemplateLint
