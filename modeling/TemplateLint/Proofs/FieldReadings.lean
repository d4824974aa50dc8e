import TemplateLint.Syntax.Decode

/-! What the reader of syntax trees takes from an object: the values of single fields. -/

namespace TemplateLint

namespace Named

variable {α : Type}

/-- Writes the value of a name, or removes the name. -/
def put (entries : Named α) (name : String) : Option α → Named α
  | some value => entries.set name value
  | none => entries.filter fun entry => entry.1 ≠ name

theorem get?_put (entries : Named α) (name other : String) (value : Option α) :
    (entries.put name value).get? other = if other = name then value else entries.get? other := by
  cases value with
  | none => exact lookup_filter_ne entries name other
  | some value => exact get?_set entries name other value

@[simp] theorem get?_put_self (entries : Named α) (name : String) (value : Option α) :
    (entries.put name value).get? name = value := by
  rw [get?_put, if_pos rfl]

@[simp] theorem get?_put_of_ne {entries : Named α} {name other : String} {value : Option α}
    (h : other ≠ name) : (entries.put name value).get? other = entries.get? other := by
  rw [get?_put, if_neg h]

end Named

variable {fields : Fields} {name key : String} {value : Option Value}

@[simp] theorem Fields.getD_put_of_ne (h : key ≠ name) :
    Fields.getD (fields.put name value) key = fields.getD key := by
  simp [getD, h]

@[simp] theorem Location.decode_put_of_ne (h : "loc" ≠ name) :
    Location.decode (fields.put name value) = Location.decode fields := by
  simp [Location.decode, h]

namespace Decode

@[simp] theorem require_put_of_ne (ht : "type" ≠ name) (h : key ≠ name) :
    require (fields.put name value) key = require fields key := by
  simp [require, ht, h]

@[simp] theorem blockParams_put_of_ne (h : "blockParams" ≠ name) :
    blockParams (fields.put name value) = blockParams fields := by
  simp [blockParams, h]

@[simp] theorem trusting_put_of_ne (h : "trusting" ≠ name) (he : "escaped" ≠ name) :
    trusting (fields.put name value) = trusting fields := by
  simp [trusting, h, he]

theorem all_eq_mapM (items : List Value) : all items = items.mapM node := by
  induction items with
  | nil =>
    rw [all]
    rfl
  | cons v rest ih => rw [all, ih, List.mapM_cons]

theorem allPairs_eq_mapM (items : List Value) : allPairs items = items.mapM pair := by
  induction items with
  | nil =>
    rw [allPairs]
    rfl
  | cons v rest ih => rw [allPairs, ih, List.mapM_cons]

theorem required_eq (fields : Fields) (key : String) :
    required fields key = match fields.get? key with
      | some v => node v
      | none => .error (.missing ((fields.get? "type").getD (.text "node")) key) := by
  rw [required]
  split <;> simp_all

/-- The path that a node has to be, where the object gives its kind. -/
def asPath (v : Value) : Node → Except DecodeError PathExpression
  | .path p => .ok p
  | _ => .error (.notPath (v.field "type"))

theorem path_eq (fields : Fields) :
    path fields = match fields.get? "path" with
      | some v => node v >>= asPath v
      | none => .error (.missing ((fields.get? "type").getD (.text "node")) "path") := by
  rw [path]
  split
  · rename_i v h
    simp only [h]
    refine congrArg (node v >>= ·) ?_
    funext n
    cases n <;> rfl
  · rename_i h
    simp only [h]

theorem nodes_eq (fields : Fields) (key : String) :
    nodes fields key = match fields.get? key with
      | none | some .null => .ok []
      | some (.list items) => items.mapM node
      | some v => .error (.notNodes v) := by
  rw [nodes]
  split <;> simp_all [all_eq_mapM]

theorem pairs_eq (fields : Fields) :
    pairs fields = match fields.get? "pairs" with
      | none => .ok []
      | some (.list items) => items.mapM pair
      | some v => if v.truthy then .error (.notPairs v) else .ok [] := by
  rw [pairs]
  split <;> simp_all [allPairs_eq_mapM]

theorem hashObject_nil : hashObject [] = .ok .empty := by
  rw [hashObject, pairs_eq]
  rfl

/-- An empty object in place of the named arguments gives none, like an object without pairs. -/
theorem hash_eq (fields : Fields) :
    hash fields = match fields.get? "hash" with
      | none => .ok .empty
      | some (.table given) => hashObject given
      | some v => if v.truthy then .error (.notHash v) else .ok .empty := by
  rw [hash]
  split
  · simp_all
  · rename_i given h
    simp only [h]
    cases given with
    | nil => exact hashObject_nil.symm
    | cons entry rest => rfl
  · simp_all

theorem program_eq (fields : Fields) :
    program fields = match fields.get? "program" with
      | none => .error (.missing ((fields.get? "type").getD (.text "node")) "program")
      | some .null => .ok .empty
      | some (.table given) => blockObject given
      | some v => .error (.notBlock v) := by
  rw [program]
  split <;> simp_all

theorem inverse_eq (fields : Fields) :
    inverse fields = match fields.get? "inverse" with
      | none | some .null => .ok none
      | some (.table given) => some <$> blockObject given
      | some v => .error (.notBlock v) := by
  rw [inverse]
  split <;> simp_all

@[simp] theorem required_put_of_ne (ht : "type" ≠ name) (h : key ≠ name) :
    required (fields.put name value) key = required fields key := by
  simp [required_eq, ht, h]

@[simp] theorem path_put_of_ne (ht : "type" ≠ name) (h : "path" ≠ name) :
    path (fields.put name value) = path fields := by
  simp [path_eq, ht, h]

@[simp] theorem nodes_put_of_ne (h : key ≠ name) :
    nodes (fields.put name value) key = nodes fields key := by
  simp [nodes_eq, h]

@[simp] theorem hash_put_of_ne (h : "hash" ≠ name) :
    hash (fields.put name value) = hash fields := by
  simp [hash_eq, h]

@[simp] theorem pairs_put_of_ne (h : "pairs" ≠ name) :
    pairs (fields.put name value) = pairs fields := by
  simp [pairs_eq, h]

@[simp] theorem program_put_of_ne (ht : "type" ≠ name) (h : "program" ≠ name) :
    program (fields.put name value) = program fields := by
  simp [program_eq, ht, h]

@[simp] theorem inverse_put_of_ne (h : "inverse" ≠ name) :
    inverse (fields.put name value) = inverse fields := by
  simp [inverse_eq, h]

end Decode

end TemplateLint
