import TemplateLint.Proofs.FieldReadings

/-!
The places of a document where the reader of syntax trees looks for a location, and the places of
the tree that they become.
-/

namespace TemplateLint

/-- A turn from an object to one that it holds: in a field, or at an index of the list in a
field. -/
inductive Turn where
  | path
  | value
  | hash
  | program
  | inverse
  | body (i : Nat)
  | params (i : Nat)
  | attributes (i : Nat)
  | modifiers (i : Nat)
  | children (i : Nat)
  | parts (i : Nat)
  | pairs (i : Nat)
  deriving DecidableEq, Repr

/-- What the reader takes an object for. -/
inductive Site where
  | node
  | block
  | hash
  | pair
  deriving DecidableEq, Repr

namespace Turn

def field : Turn → String
  | path => "path"
  | value => "value"
  | hash => "hash"
  | program => "program"
  | inverse => "inverse"
  | body _ => "body"
  | params _ => "params"
  | attributes _ => "attributes"
  | modifiers _ => "modifiers"
  | children _ => "children"
  | parts _ => "parts"
  | pairs _ => "pairs"

def index? : Turn → Option Nat
  | body i | params i | attributes i | modifiers i | children i | parts i | pairs i => some i
  | _ => none

/-- What an object holds at a turn. -/
def find? (t : Turn) (fields : Fields) : Option Value :=
  match t.index?, fields.get? t.field with
  | none, v => v
  | some i, some (.list items) => items[i]?
  | _, _ => none

/-- Changes what the value of the field of a turn holds at it. -/
def within (t : Turn) (f : Value → Value) (v : Value) : Value :=
  match t.index?, v with
  | none, v => f v
  | some i, .list items => .list (items.modify i f)
  | _, v => v

/-- Changes what an object holds at a turn. -/
def edit (t : Turn) (f : Value → Value) (fields : Fields) : Fields :=
  fields.put t.field ((fields.get? t.field).map (t.within f))

variable {t : Turn} {i : Nat} {fields : Fields} {v : Value}

theorem exists_list_of_find? (ht : t.index? = some i) (hv : t.find? fields = some v) :
    ∃ items, fields.get? t.field = some (.list items) ∧ items[i]? = some v := by
  rw [find?, ht] at hv
  cases hg : fields.get? t.field with
  | none => simp [hg] at hv
  | some w =>
    cases w with
    | list items =>
      rw [hg] at hv
      exact ⟨items, rfl, hv⟩
    | _ => simp [hg] at hv

theorem get?_of_find? (ht : t.index? = none) (hv : t.find? fields = some v) :
    fields.get? t.field = some v := by
  rwa [find?, ht] at hv

theorem edit_of_list {items : List Value} (ht : t.index? = some i)
    (hl : fields.get? t.field = some (.list items)) (f : Value → Value) :
    t.edit f fields = fields.put t.field (some (.list (items.modify i f))) := by
  simp [edit, within, ht, hl]

theorem edit_of_get? (ht : t.index? = none) (hv : fields.get? t.field = some v)
    (f : Value → Value) : t.edit f fields = fields.put t.field (some (f v)) := by
  simp [edit, within, ht, hv]

end Turn

/-- What the reader takes an object for that it finds at a turn from a node of a kind. -/
def Kind.target? : Kind → Turn → Option Site
  | .template, .body _ | .block, .body _ => some .node
  | .blockStatement, .path | .mustacheStatement, .path => some .node
  | .subExpression, .path | .elementModifier, .path => some .node
  | .blockStatement, .params _ | .mustacheStatement, .params _ => some .node
  | .subExpression, .params _ | .elementModifier, .params _ => some .node
  | .blockStatement, .hash | .mustacheStatement, .hash => some .hash
  | .subExpression, .hash | .elementModifier, .hash => some .hash
  | .blockStatement, .program | .blockStatement, .inverse => some .block
  | .hash, .pairs _ => some .pair
  | .element, .attributes _ | .element, .modifiers _ | .element, .children _ => some .node
  | .attr, .value => some .node
  | .concat, .parts _ => some .node
  | _, _ => none

/-- What the reader takes an object for that it finds at a turn, from whatever node. -/
def Turn.site : Turn → Site
  | hash => .hash
  | program | inverse => .block
  | pairs _ => .pair
  | _ => .node

theorem Kind.target?_eq_site {kind : Kind} {t : Turn} {s : Site} (h : kind.target? t = some s) :
    s = t.site := by
  unfold target? at h
  split at h <;> cases h <;> rfl

def Site.target? (fields : Fields) : Site → Turn → Option Site
  | .node, t => (Kind.ofValue? (fields.getD "type")).bind fun kind => kind.target? t
  | .block, .body _ => some .node
  | .hash, .pairs _ => some .pair
  | .pair, .value => some .node
  | _, _ => none

namespace Value

/-- Whether the turns lead to an object where the reader looks for a location. -/
def hasPlace : List Turn → Site → Value → Bool
  | [], _, .table _ => true
  | t :: rest, s, .table fields =>
    match s.target? fields t, t.find? fields with
    | some s', some v => hasPlace rest s' v
    | _, _ => false
  | _, _, _ => false

/-- Changes the object at a place. -/
def edit (f : Fields → Fields) : List Turn → Value → Value
  | [], .table fields => .table (f fields)
  | t :: rest, .table fields => .table (t.edit (edit f rest) fields)
  | _, v => v

/-- Writes or removes the location of the object at a place. -/
def putLoc (loc : Option Value) (place : List Turn) (v : Value) : Value :=
  v.edit (fun fields => fields.put "loc" loc) place

variable {v : Value} {s : Site} {place : List Turn}

theorem hasPlace_cons {t : Turn} {fields : Fields} :
    hasPlace (t :: place) s (.table fields) ↔
      ∃ s' w, s.target? fields t = some s' ∧ t.find? fields = some w ∧ hasPlace place s' w := by
  simp only [hasPlace]
  cases s.target? fields t <;> cases t.find? fields <;> simp

/-- A change at a place does not reach what an object gives as its type. -/
theorem exists_table_putLoc (h : v.hasPlace place s) (loc loc' : Option Value) :
    ∃ xs xs' : Fields, v.putLoc loc place = .table xs ∧ v.putLoc loc' place = .table xs' ∧
      xs.getD "type" = xs'.getD "type" := by
  cases v with
  | table fields =>
    cases place with
    | nil => exact ⟨_, _, rfl, rfl, by simp⟩
    | cons t rest =>
      have ht : "type" ≠ t.field := by cases t <;> simp [Turn.field]
      exact ⟨_, _, rfl, rfl, by simp [Turn.edit, ht]⟩
  | _ => cases place <;> cases h

end Value

abbrev Site.Tree : Site → Type
  | node => Node
  | block => Block
  | hash => Hash
  | pair => HashPair

def Node.withLoc (loc : Option Location) : Node → Node
  | template body names _ => template body names loc
  | block b => block { b with loc }
  | blockStatement p params h program inverse _ => blockStatement p params h program inverse loc
  | mustacheStatement callee params h trusting _ => mustacheStatement callee params h trusting loc
  | subExpression p params h _ => subExpression p params h loc
  | elementModifier p params h _ => elementModifier p params h loc
  | path p => path { p with loc }
  | string value _ => string value loc
  | number value _ => number value loc
  | boolean value _ => boolean value loc
  | null _ => null loc
  | undefined _ => undefined loc
  | hash h => hash { h with loc }
  | hashPair p => hashPair { p with loc }
  | element tag attributes modifiers children names selfClosing _ =>
    element tag attributes modifiers children names selfClosing loc
  | attr name value _ => attr name value loc
  | concat parts _ => concat parts loc
  | text chars _ => text chars loc
  | comment value _ => comment value loc
  | mustacheComment value _ => mustacheComment value loc

def Site.withLoc (loc : Option Location) : (s : Site) → s.Tree → s.Tree
  | node, v => Node.withLoc loc v
  | block, b => { b with loc }
  | hash, h => { h with loc }
  | pair, p => { p with loc }

/-- A change for what is found at each site. -/
abbrev Change := (s : Site) → s.Tree → s.Tree

def PathExpression.change (f : Change) (p : PathExpression) : PathExpression :=
  match f .node (.path p) with
  | .path q => q
  | _ => p

def Block.change (t : Turn) (f : Change) (b : Block) : Block :=
  match t with
  | .body i => { b with body := b.body.modify i (f .node) }
  | _ => b

def Hash.change (t : Turn) (f : Change) (h : Hash) : Hash :=
  match t with
  | .pairs i => { h with pairs := h.pairs.modify i (f .pair) }
  | _ => h

def HashPair.change (t : Turn) (f : Change) (p : HashPair) : HashPair :=
  match t with
  | .value => { p with value := f .node p.value }
  | _ => p

/-- Changes what a node holds at a turn. -/
def Node.change (t : Turn) (f : Change) (v : Node) : Node :=
  match t, v with
  | .body i, template body names loc => template (body.modify i (f .node)) names loc
  | t, block b => block (b.change t f)
  | .path, blockStatement p params h program inverse loc =>
    blockStatement (p.change f) params h program inverse loc
  | .params i, blockStatement p params h program inverse loc =>
    blockStatement p (params.modify i (f .node)) h program inverse loc
  | .hash, blockStatement p params h program inverse loc =>
    blockStatement p params (f .hash h) program inverse loc
  | .program, blockStatement p params h program inverse loc =>
    blockStatement p params h (f .block program) inverse loc
  | .inverse, blockStatement p params h program inverse loc =>
    blockStatement p params h program (inverse.map (f .block)) loc
  | .path, mustacheStatement callee params h trusting loc =>
    mustacheStatement (f .node callee) params h trusting loc
  | .params i, mustacheStatement callee params h trusting loc =>
    mustacheStatement callee (params.modify i (f .node)) h trusting loc
  | .hash, mustacheStatement callee params h trusting loc =>
    mustacheStatement callee params (f .hash h) trusting loc
  | .path, subExpression p params h loc => subExpression (p.change f) params h loc
  | .params i, subExpression p params h loc => subExpression p (params.modify i (f .node)) h loc
  | .hash, subExpression p params h loc => subExpression p params (f .hash h) loc
  | .path, elementModifier p params h loc => elementModifier (p.change f) params h loc
  | .params i, elementModifier p params h loc =>
    elementModifier p (params.modify i (f .node)) h loc
  | .hash, elementModifier p params h loc => elementModifier p params (f .hash h) loc
  | t, hash h => hash (h.change t f)
  | .attributes i, element tag attributes modifiers children names selfClosing loc =>
    element tag (attributes.modify i (f .node)) modifiers children names selfClosing loc
  | .modifiers i, element tag attributes modifiers children names selfClosing loc =>
    element tag attributes (modifiers.modify i (f .node)) children names selfClosing loc
  | .children i, element tag attributes modifiers children names selfClosing loc =>
    element tag attributes modifiers (children.modify i (f .node)) names selfClosing loc
  | .value, attr name value loc => attr name (f .node value) loc
  | .parts i, concat parts loc => concat (parts.modify i (f .node)) loc
  | _, v => v

def Site.change (t : Turn) (f : Change) : Change
  | node, v => Node.change t f v
  | block, b => Block.change t f b
  | hash, h => Hash.change t f h
  | pair, p => HashPair.change t f p

/-- Gives what is at a place of a tree another location. -/
def Site.putLoc (loc : Option Location) : List Turn → Change
  | [] => Site.withLoc loc
  | t :: rest => Site.change t (putLoc loc rest)

theorem Node.kind_withLoc (loc : Option Location) (v : Node) : (v.withLoc loc).kind = v.kind := by
  cases v <;> rfl

theorem Node.kind_change (t : Turn) (f : Change) (v : Node) : (v.change t f).kind = v.kind := by
  unfold change
  split <;> rfl

theorem Site.kind_putLoc (loc : Option Location) (place : List Turn) (v : Node) :
    (putLoc loc place .node v).kind = v.kind := by
  cases place with
  | nil => exact Node.kind_withLoc loc v
  | cons t rest => exact Node.kind_change t _ v

end TemplateLint
