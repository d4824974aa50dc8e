/-! Named values in the order of their first writing. -/

namespace TemplateLint

/-- A list of named values. A name counts at its first place. -/
abbrev Named (α : Type) := List (String × α)

namespace Named

variable {α : Type}

def get? (entries : Named α) (name : String) : Option α :=
  List.lookup name entries

/-- Writes a value: at the place of its name when there is one, else at the end. -/
def set : (entries : Named α) → (name : String) → (value : α) → Named α
  | [], name, value => [(name, value)]
  | (n, v) :: rest, name, value =>
    if n = name then (n, value) :: rest else (n, v) :: Named.set rest name value

def names (entries : Named α) : List String :=
  entries.map (·.1)

theorem get?_set (entries : Named α) (name other : String) (value : α) :
    (entries.set name value).get? other = if other = name then some value else entries.get? other := by
  induction entries with
  | nil => simp only [set, get?, List.lookup_cons, List.lookup_nil]; grind
  | cons entry rest ih =>
    simp only [get?] at ih
    simp only [set, get?]
    split <;> simp only [List.lookup_cons] <;> grind

theorem lookup_filter_ne {κ : Type} [BEq κ] [LawfulBEq κ] [DecidableEq κ] (entries : List (κ × α))
    (name other : κ) :
    (entries.filter fun entry => entry.1 ≠ name).lookup other =
      if other = name then none else entries.lookup other := by
  induction entries with
  | nil => simp
  | cons entry rest ih =>
    obtain ⟨n, v⟩ := entry
    simp only [List.filter_cons, List.lookup_cons]
    by_cases hn : n = name <;> grind

theorem sizeOf_get?_lt [SizeOf α] {entries : Named α} {name : String} {v : α}
    (h : entries.get? name = some v) : sizeOf v < sizeOf entries := by
  induction entries with
  | nil => cases h
  | cons entry rest ih =>
    obtain ⟨n, w⟩ := entry
    simp only [get?, List.lookup_cons] at h
    split at h
    · cases h
      simp only [List.cons.sizeOf_spec, Prod.mk.sizeOf_spec]
      omega
    · have := ih h
      simp only [List.cons.sizeOf_spec]
      omega

end Named

end TemplateLint
