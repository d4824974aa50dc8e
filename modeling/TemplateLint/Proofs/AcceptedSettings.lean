import Mathlib.Algebra.Group.Int.Defs
import TemplateLint.Lint.Rule

/-!
Which settings are accepted, and what is said about the others. Main statement: the first bad entry
of a list decides on the complaint, and the complaint shows the whole setting unless an integer in
it is too long to be written.
-/

namespace TemplateLint

namespace Value

/-- A table with a text for its name. -/
def IsNamed (v : Value) : Prop :=
  ∃ (fields : Fields) (name : String), v = .table fields ∧ fields.getD "name" = .text name

/-- A text, or a table with a text for its name and with a list of texts for its named arguments,
which may be absent or null. -/
inductive IsEntry : Value → Prop
  | text (name : String) : IsEntry (.text name)
  | table {fields : Fields} (hn : (table fields).IsNamed)
      (ha : fields.getD "withAttributes" = .null ∨
        ∃ names : List String, fields.getD "withAttributes" = .list (names.map .text)) :
      IsEntry (.table fields)

/-- A setting that is not accepted, and the complaint that it provokes. In a list this is up to the
first value that is no entry. -/
inductive Provokes : Value → Complaint → Prop
  | notList {v : Value} (hnull : v ≠ .null) (hbool : ∀ b, v ≠ .bool b)
      (hlist : ∀ items, v ≠ .list items) : Provokes v .notList
  | badAttributes {before after : List Value} {v : Value} (hb : ∀ w ∈ before, w.IsEntry)
      (hv : ¬ v.IsEntry) (hn : v.IsNamed) : Provokes (.list (before ++ v :: after)) .badAttributes
  | badEntry {before after : List Value} {v : Value} (hb : ∀ w ∈ before, w.IsEntry)
      (hv : ¬ v.IsEntry) (hn : ¬ v.IsNamed) : Provokes (.list (before ++ v :: after)) .badEntry

mutual

/-- All integers in a value, at any depth. -/
def integers : Value → List Int
  | .int n => [n]
  | .list items => integersOf items
  | .table fields => integersOfFields fields
  | _ => []

def integersOf : List Value → List Int
  | [] => []
  | v :: rest => integers v ++ integersOf rest

def integersOfFields : List (String × Value) → List Int
  | [] => []
  | (_, v) :: rest => integers v ++ integersOfFields rest

end

end Value

/-- The shape of what would have been accepted. -/
def Complaint.shape : Complaint → String
  | notList => "array of strings (helpers or components to blacklist)"
  | badEntry => "array of strings or objects with \"name\" key - helpers or components to blacklist"
  | badAttributes => "\"withAttributes\" must be an array of attribute names"

variable {items before after : List Value} {v config : Value} {fields : Fields} {rule : String}

namespace Value

theorem isNamed_table : (table fields).IsNamed ↔ ∃ name, fields.getD "name" = .text name := by
  constructor
  · rintro ⟨_, name, ⟨rfl⟩, hn⟩
    exact ⟨name, hn⟩
  · rintro ⟨name, hn⟩
    exact ⟨fields, name, rfl, hn⟩

theorem isEntry_table : (table fields).IsEntry ↔ (table fields).IsNamed ∧
    (fields.getD "withAttributes" = .null ∨
      ∃ names : List String, fields.getD "withAttributes" = .list (names.map .text)) := by
  constructor
  · rintro ⟨⟩
    exact ⟨‹_›, ‹_›⟩
  · rintro ⟨hn, ha⟩
    exact .table hn ha

theorem mapM_text?_eq_some_iff {names : List String} :
    items.mapM text? = some names ↔ items = names.map .text := by
  constructor
  · intro h
    induction items generalizing names with
    | nil =>
      cases h
      rfl
    | cons v rest ih =>
      simp only [List.mapM_cons, Option.bind_eq_bind, Option.bind_eq_some_iff, Option.pure_def,
        Option.some.injEq] at h
      obtain ⟨first, hv, more, hr, rfl⟩ := h
      have hfirst : v = .text first := by
        cases v <;> cases hv
        rfl
      rw [hfirst, ih hr, List.map_cons]
  · rintro rfl
    induction names with
    | nil => rfl
    | cons first more ih =>
      rw [List.map_cons, List.mapM_cons, ih]
      rfl

theorem texts?_eq_some_iff {names : List String} :
    v.texts? = some names ↔ v = .list (names.map .text) := by
  cases v with
  | list items =>
    rw [texts?, mapM_text?_eq_some_iff, list.injEq]
  | _ => simp [texts?]

mutual

theorem isWritable_iff (v : Value) :
    Json.isWritable v = true ↔ ∀ n ∈ v.integers, Json.digitCount n ≤ Text.digitLimit := by
  cases v with
  | int n => simp only [Json.isWritable, integers, decide_eq_true_iff, List.forall_mem_singleton]
  | list items =>
    rw [Json.isWritable, integers]
    exact areWritable_iff items
  | table fields =>
    rw [Json.isWritable, integers]
    exact areWritableFields_iff fields
  | _ => simp [Json.isWritable, integers]

theorem areWritable_iff (items : List Value) :
    Json.areWritable items = true ↔
      ∀ n ∈ integersOf items, Json.digitCount n ≤ Text.digitLimit := by
  cases items with
  | nil => simp [Json.areWritable, integersOf]
  | cons v rest =>
    rw [Json.areWritable, integersOf, Bool.and_eq_true, List.forall_mem_append, isWritable_iff v,
      areWritable_iff rest]

theorem areWritableFields_iff (fields : List (String × Value)) :
    Json.areWritableFields fields = true ↔
      ∀ n ∈ integersOfFields fields, Json.digitCount n ≤ Text.digitLimit := by
  match fields with
  | [] => simp [Json.areWritableFields, integersOfFields]
  | (_, v) :: rest =>
    rw [Json.areWritableFields, integersOfFields, Bool.and_eq_true, List.forall_mem_append,
      isWritable_iff v, areWritableFields_iff rest]

end

end Value

namespace Entry

/-- What is read from a table depends on its name first. -/
theorem decode_table_of_not_isNamed (h : ¬ (Value.table fields).IsNamed) :
    decode (.table fields) = .error .badEntry := by
  have hn : ∀ name, fields.getD "name" ≠ .text name := by
    intro name hname
    exact h (Value.isNamed_table.mpr ⟨name, hname⟩)
  -- The last case of `decode` asks for `hn`.
  simp only [decode]

theorem decode_table_of_isNamed (h : (Value.table fields).IsNamed) :
    (∃ e, decode (.table fields) = .ok e ∧ (Value.table fields).IsEntry) ∨
      decode (.table fields) = .error .badAttributes ∧ ¬ (Value.table fields).IsEntry := by
  obtain ⟨name, hname⟩ := Value.isNamed_table.mp h
  rw [Value.isEntry_table]
  simp only [decode, hname]
  split
  · rename_i hnull
    exact .inl ⟨_, rfl, h, .inl hnull⟩
  · rename_i hnull
    cases ht : (fields.getD "withAttributes").texts? with
    | some names => exact .inl ⟨_, rfl, h, .inr ⟨names, Value.texts?_eq_some_iff.mp ht⟩⟩
    | none =>
      refine .inr ⟨rfl, ?_⟩
      rintro ⟨-, ha | ⟨names, ha⟩⟩
      · exact hnull ha
      · rw [Value.texts?_eq_some_iff.mpr ha] at ht
        cases ht

/-- An entry can be read. About another value the complaint depends on whether it is named. -/
theorem decode_cases (v : Value) :
    (v.IsEntry ∧ ∃ e, decode v = .ok e) ∨
    (¬ v.IsEntry ∧ v.IsNamed ∧ decode v = .error .badAttributes) ∨
    (¬ v.IsEntry ∧ ¬ v.IsNamed ∧ decode v = .error .badEntry) := by
  cases v with
  | text name => exact .inl ⟨.text name, _, rfl⟩
  | table fields =>
    by_cases hn : (Value.table fields).IsNamed
    · rcases decode_table_of_isNamed hn with ⟨e, he, hv⟩ | ⟨he, hv⟩
      · exact .inl ⟨hv, e, he⟩
      · exact .inr (.inl ⟨hv, hn, he⟩)
    · refine .inr (.inr ⟨?_, hn, decode_table_of_not_isNamed hn⟩)
      intro hv
      exact hn (Value.isEntry_table.mp hv).1
  | _ =>
    refine .inr (.inr ⟨nofun, ?_, rfl⟩)
    rintro ⟨_, _, ⟨⟩, -⟩

theorem exists_decode (hv : v.IsEntry) : ∃ e, decode v = .ok e := by
  rcases decode_cases v with ⟨-, he⟩ | ⟨hv', -⟩ | ⟨hv', -⟩
  · exact he
  · exact (hv' hv).elim
  · exact (hv' hv).elim

theorem decode_of_isNamed (hv : ¬ v.IsEntry) (hn : v.IsNamed) :
    decode v = .error .badAttributes := by
  rcases decode_cases v with ⟨hv', -⟩ | ⟨-, -, he⟩ | ⟨-, hn', -⟩
  · exact (hv hv').elim
  · exact he
  · exact (hn' hn).elim

theorem decode_of_not_isNamed (hv : ¬ v.IsEntry) (hn : ¬ v.IsNamed) :
    decode v = .error .badEntry := by
  rcases decode_cases v with ⟨hv', -⟩ | ⟨-, hn', -⟩ | ⟨-, -, he⟩
  · exact (hv hv').elim
  · exact (hn hn').elim
  · exact he

theorem exists_mapM_decode (h : ∀ v ∈ items, v.IsEntry) :
    ∃ entries, items.mapM decode = .ok entries := by
  induction items with
  | nil => exact ⟨[], rfl⟩
  | cons v rest ih =>
    obtain ⟨hv, hr⟩ := List.forall_mem_cons.mp h
    obtain ⟨e, he⟩ := exists_decode hv
    obtain ⟨more, hmore⟩ := ih hr
    refine ⟨e :: more, ?_⟩
    rw [List.mapM_cons, he, hmore]
    rfl

/-- Reading a list ends at the first value that cannot be read, whatever comes after it. -/
theorem mapM_decode_of_error {complaint : Complaint} (hb : ∀ w ∈ before, w.IsEntry)
    (hv : decode v = .error complaint) :
    (before ++ v :: after).mapM decode = .error complaint := by
  obtain ⟨entries, he⟩ := exists_mapM_decode hb
  rw [List.mapM_append, he, List.mapM_cons, hv]
  rfl

end Entry

/-- A list holds entries alone, or there is a first value in it that is none. -/
theorem Value.entries_or_split (items : List Value) :
    (∀ v ∈ items, v.IsEntry) ∨ ∃ before v after, items = before ++ v :: after ∧
      (∀ w ∈ before, w.IsEntry) ∧ ¬ v.IsEntry := by
  induction items with
  | nil => exact .inl nofun
  | cons v rest ih =>
    by_cases hv : v.IsEntry
    · rcases ih with hr | ⟨before, w, after, rfl, hb, hw⟩
      · exact .inl (List.forall_mem_cons.mpr ⟨hv, hr⟩)
      · exact .inr ⟨v :: before, w, after, rfl, List.forall_mem_cons.mpr ⟨hv, hb⟩, hw⟩
    · exact .inr ⟨[], v, rest, rfl, nofun, hv⟩

namespace Setting

theorem classify_list_of_entries (h : ∀ v ∈ items, v.IsEntry) :
    ∃ b, classify (.list items) = .compiled b := by
  obtain ⟨entries, he⟩ := Entry.exists_mapM_decode h
  refine ⟨.ofEntries entries, ?_⟩
  simp only [classify, he]

theorem classify_of_provokes {k : Complaint} (h : config.Provokes k) :
    classify config = .problem k := by
  have hlist {before after : List Value} {v : Value} (hb : ∀ w ∈ before, w.IsEntry)
      (hv : Entry.decode v = .error k) : classify (.list (before ++ v :: after)) = .problem k := by
    simp only [classify, Entry.mapM_decode_of_error hb hv]
  cases h with
  | notList hnull hbool hlist =>
    cases config with
    | null => exact (hnull rfl).elim
    | bool b => exact (hbool b rfl).elim
    | list items => exact (hlist items rfl).elim
    | _ => rfl
  | badAttributes hb hv hn => exact hlist hb (Entry.decode_of_isNamed hv hn)
  | badEntry hb hv hn => exact hlist hb (Entry.decode_of_not_isNamed hv hn)

/-- Every setting is off, is accepted, or provokes a complaint. -/
theorem classify_cases (config : Value) :
    ((config = .null ∨ config = .bool false) ∧ classify config = .disabled) ∨
    ((config = .bool true ∨ ∃ items, config = .list items ∧ ∀ v ∈ items, v.IsEntry) ∧
      ∃ b, classify config = .compiled b) ∨
    ∃ k, config.Provokes k ∧ classify config = .problem k := by
  cases config with
  | null => exact .inl ⟨.inl rfl, rfl⟩
  | bool b =>
    cases b with
    | false => exact .inl ⟨.inr rfl, rfl⟩
    | true => exact .inr (.inl ⟨.inl rfl, _, rfl⟩)
  | list items =>
    rcases Value.entries_or_split items with h | ⟨before, v, after, rfl, hb, hv⟩
    · exact .inr (.inl ⟨.inr ⟨items, rfl, h⟩, classify_list_of_entries h⟩)
    · right
      right
      by_cases hn : v.IsNamed
      · have hp : (Value.list (before ++ v :: after)).Provokes .badAttributes :=
          .badAttributes hb hv hn
        exact ⟨_, hp, classify_of_provokes hp⟩
      · have hp : (Value.list (before ++ v :: after)).Provokes .badEntry := .badEntry hb hv hn
        exact ⟨_, hp, classify_of_provokes hp⟩
  | _ => exact .inr (.inr ⟨_, .notList nofun nofun nofun, rfl⟩)

theorem classify_eq_off_iff :
    classify config = .disabled ↔ config = .null ∨ config = .bool false := by
  constructor
  · intro h
    rcases classify_cases config with ⟨hoff, -⟩ | ⟨-, b, hb⟩ | ⟨k, -, hk⟩
    · exact hoff
    · exact nomatch hb.symm.trans h
    · exact nomatch hk.symm.trans h
  · rintro (rfl | rfl) <;> rfl

theorem classify_eq_compiled_iff : (∃ b, classify config = .compiled b) ↔
    config = .bool true ∨ ∃ items, config = .list items ∧ ∀ v ∈ items, v.IsEntry := by
  constructor
  · rintro ⟨b, h⟩
    rcases classify_cases config with ⟨-, hd⟩ | ⟨hon, -⟩ | ⟨k, -, hk⟩
    · exact nomatch hd.symm.trans h
    · exact hon
    · exact nomatch hk.symm.trans h
  · rintro (rfl | ⟨items, rfl, h⟩)
    · exact ⟨_, rfl⟩
    · exact classify_list_of_entries h

theorem classify_eq_problem_iff {k : Complaint} :
    classify config = .problem k ↔ config.Provokes k := by
  refine ⟨?_, classify_of_provokes⟩
  intro h
  rcases classify_cases config with ⟨-, hd⟩ | ⟨-, b, hb⟩ | ⟨k', hp, hk⟩
  · exact nomatch hd.symm.trans h
  · exact nomatch hb.symm.trans h
  · rw [hk] at h
    cases h
    exact hp

theorem compile_eq_error_iff {e : SettingError} :
    compile rule config = .error e ↔ ∃ k, config.Provokes k ∧ e = ⟨rule, config, k⟩ := by
  simp only [← classify_eq_problem_iff, compile]
  cases classify config with
  | problem k => simp [eq_comm]
  | _ => simp

end Setting

namespace Complaint

theorem accepted_eq (k : Complaint) : k.accepted = ["  * " ++ k.shape] := by
  cases k <;> decide

theorem message_eq (k : Complaint) (rule : String) (config : Value) :
    k.message rule config = "The " ++ rule ++ " rule accepts one of the following values.\n  * "
      ++ k.shape ++ "\nYou specified `" ++ Json.write config ++ "`" := by
  rw [message, complaintText, accepted_eq, ← String.toList_inj]
  simp

theorem text?_eq_some (k : Complaint) (rule : String)
    (h : ∀ n ∈ config.integers, Json.digitCount n ≤ Text.digitLimit) :
    k.text? rule config = some ("The " ++ rule ++ " rule accepts one of the following values.\n  * "
      ++ k.shape ++ "\nYou specified `" ++ Json.write config ++ "`") := by
  rw [text?, if_pos (Value.isWritable_iff config |>.mpr h), message_eq]

theorem text?_eq_none (k : Complaint) (rule : String) {n : Int} (hn : n ∈ config.integers)
    (hlong : Text.digitLimit < Json.digitCount n) : k.text? rule config = none := by
  rw [text?, if_neg]
  intro hw
  have hshort := Value.isWritable_iff config |>.mp hw n hn
  omega

end Complaint

theorem SettingError.text?_eq_none_iff {e : SettingError} :
    e.text? = none ↔ ∃ n ∈ e.config.integers, Text.digitLimit < Json.digitCount n := by
  constructor
  · intro h
    have hw : ¬ Json.isWritable e.config := by
      intro hw
      rw [SettingError.text?, Complaint.text?, if_pos hw] at h
      cases h
    rw [Value.isWritable_iff] at hw
    simpa using hw
  · rintro ⟨n, hn, hlong⟩
    exact e.complaint.text?_eq_none e.rule hn hlong

open Setting in
/-- Which settings turn the rule off, which give a blacklist, and what is complained about the rest.
A complaint shows the whole setting, and without the text of a complaint there is an integer in it
that is too long to be written. -/
theorem settings_are_accepted_or_refused (rule : String) (config : Value) :
    (classify config = .disabled ↔ config = .null ∨ config = .bool false) ∧
    ((∃ b, classify config = .compiled b) ↔
      config = .bool true ∨ ∃ items, config = .list items ∧ ∀ v ∈ items, v.IsEntry) ∧
    (∀ k, classify config = .problem k ↔ config.Provokes k) ∧
    (∀ e, compile rule config = .error e ↔ ∃ k, config.Provokes k ∧ e = ⟨rule, config, k⟩) ∧
    (∀ k, (∀ n ∈ config.integers, Json.digitCount n ≤ Text.digitLimit) →
      SettingError.text? ⟨rule, config, k⟩ =
        some ("The " ++ rule ++ " rule accepts one of the following values.\n  * " ++ k.shape
          ++ "\nYou specified `" ++ Json.write config ++ "`")) ∧
    ∀ k, ∀ n ∈ config.integers, Text.digitLimit < Json.digitCount n →
      SettingError.text? ⟨rule, config, k⟩ = none := by
  refine ⟨classify_eq_off_iff, classify_eq_compiled_iff, fun _ => classify_eq_problem_iff,
    fun _ => compile_eq_error_iff, ?_, ?_⟩
  · intro k h
    exact k.text?_eq_some rule h
  · intro k n hn hlong
    exact k.text?_eq_none rule hn hlong

example : Setting.classify (.list [.text "a",
    .table [("name", .text "b"), ("withAttributes", .int 0)], .null]) =
      .problem .badAttributes := rfl

theorem digitLimit_lt_digitCount : Text.digitLimit < Json.digitCount (16 ^ 3600) := by
  refine Nat.lt_of_not_le ?_
  rw [Json.digitCount, Text.digitLimit, Nat.length_toDigits_le_iff (by decide) (by decide)]
  decide +kernel

/-- An integer of more than 4300 digits is refused, and no text says so. -/
theorem long_integer_is_refused_without_text :
    (Value.int (16 ^ 3600)).Provokes .notList ∧
      ∃ e, Setting.compile Rule.name (.int (16 ^ 3600)) = .error e ∧ e.text? = none := by
  refine ⟨.notList nofun nofun nofun, _, rfl, ?_⟩
  exact Complaint.text?_eq_none .notList Rule.name (List.mem_singleton.mpr rfl)
    digitLimit_lt_digitCount

end TemplateLint
