import TemplateLint.Lint.Setting

/-! What a blacklist compiled from entries holds: the last entry of a name counts. -/

namespace TemplateLint

variable {items : List Value} {entries : List Entry} {name rule : String}

/-- The name that an entry of a setting gives. -/
def Value.entryName? : Value → Option String
  | .text name => some name
  | .table fields => (Fields.getD fields "name").text?
  | _ => none

/-- The named arguments that an entry of a setting asks for. -/
def Value.entryAttributes (v : Value) : List String :=
  (v.field "withAttributes").texts?.getD []

/-- The named arguments that the last entry of a name asks for. -/
def lastAttributes? (items : List Value) (name : String) : Option (List String) :=
  ((items.filter fun v => v.entryName? = some name).map Value.entryAttributes).getLast?

theorem Entry.decode_eq_ok {v : Value} {e : Entry} (h : decode v = .ok e) :
    v.entryName? = some e.name ∧ v.entryAttributes = e.attributes := by
  cases v with
  | text name =>
    cases h
    exact ⟨rfl, rfl⟩
  | table fields =>
    simp only [decode] at h
    cases hn : Fields.getD fields "name" with
    | text name =>
      simp only [hn] at h
      cases ha : Fields.getD fields "withAttributes" with
      | list attributes =>
        cases ht : (Value.list attributes).texts? with
        | some names =>
          simp only [ha, ht, Except.ok.injEq] at h
          subst h
          simp [Value.entryName?, Value.entryAttributes, Value.field, Value.text?, hn, ha, ht]
        | none =>
          simp only [ha, ht] at h
          cases h
      | null =>
        simp only [ha, Except.ok.injEq] at h
        subst h
        simp [Value.entryName?, Value.entryAttributes, Value.field, Value.text?, Value.texts?, hn,
          ha]
      | _ =>
        simp only [ha, Value.texts?] at h
        cases h
    | _ =>
      simp only [hn] at h
      cases h
  | _ => cases h

theorem attributes_of_mapM_decode (h : items.mapM Entry.decode = .ok entries) (name : String) :
    (items.filter fun v => v.entryName? = some name).map Value.entryAttributes =
      (entries.filter (·.name = name)).map (·.attributes) := by
  induction items generalizing entries with
  | nil =>
    cases h
    rfl
  | cons v rest ih =>
    rw [List.mapM_cons] at h
    cases hv : Entry.decode v with
    | error complaint =>
      rw [hv] at h
      cases h
    | ok e =>
      cases hr : rest.mapM Entry.decode with
      | error complaint =>
        rw [hv, hr] at h
        cases h
      | ok more =>
        rw [hv, hr] at h
        cases h
        obtain ⟨hn, ha⟩ := Entry.decode_eq_ok hv
        by_cases he : e.name = name <;> simp [hn, ha, he, ih hr]

namespace Blacklist

theorem get?_foldl_set (entries : List Entry) (b : Blacklist) (name : String) :
    (entries.foldl (fun b e => Named.set b e.name (.passes e.attributes)) b).get? name =
      (((entries.filter (·.name = name)).map (·.attributes)).getLast?.map .passes).or
        (b.get? name) := by
  induction entries generalizing b with
  | nil => rfl
  | cons e rest ih =>
    rw [List.foldl_cons, ih, Named.get?_set]
    by_cases he : e.name = name
    · simp only [he, List.filter_cons, decide_true, if_true, List.map_cons]
      cases hr : ((rest.filter (·.name = name)).map (·.attributes)).getLast? with
      | none =>
        rw [List.getLast?_eq_none_iff] at hr
        simp [hr]
      | some attributes =>
        simp [List.getLast?_cons, hr]
    · simp [he, Ne.symm he]

/-- A compiled list is one whose entries can all be read. -/
theorem entries_of_compile {b : Blacklist}
    (h : Setting.compile rule (.list items) = .ok (some b)) :
    ∃ entries, items.mapM Entry.decode = .ok entries ∧ b = ofEntries entries := by
  simp only [Setting.compile, Setting.classify] at h
  cases hm : items.mapM Entry.decode with
  | error complaint =>
    rw [hm] at h
    cases h
  | ok entries =>
    rw [hm] at h
    cases h
    exact ⟨entries, rfl, rfl⟩

theorem compile_of_entries (rule : String) (h : items.mapM Entry.decode = .ok entries) :
    Setting.compile rule (.list items) = .ok (some (ofEntries entries)) := by
  simp [Setting.compile, Setting.classify, h]

/-- The condition of a name in a compiled blacklist. -/
theorem get?_of_compile {b : Blacklist} (h : Setting.compile rule (.list items) = .ok (some b))
    (name : String) :
    b.get? name = ((lastAttributes? items name).map .passes).or (base.get? name) := by
  obtain ⟨entries, hm, rfl⟩ := entries_of_compile h
  rw [lastAttributes?, attributes_of_mapM_decode hm]
  exact get?_foldl_set entries base name

end Blacklist

end TemplateLint
