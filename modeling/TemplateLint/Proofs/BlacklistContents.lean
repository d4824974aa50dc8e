import Mathlib.Data.List.Perm.Basic
import TemplateLint.Proofs.AcceptedSettings
import TemplateLint.Proofs.IndependentEntries

/-!
What a list of entries is compiled to. Main statement: a name stands where its first entry stands,
and counts as its last entry says; neither depends on what is repeated.
-/

namespace TemplateLint

variable {items items' before after : List Value} {entries entries' : List Entry} {e : Entry}
  {v v' : Value} {fields : Fields} {b b' : Blacklist} {node node' : Node} {name : String}
  {names names' : List String}

/-- The pairs of the named arguments; none for a node that has no named arguments. -/
def Node.pairs (node : Node) : List HashPair :=
  node.hash?.elim [] Hash.pairs

/-- The same entry, up to how often and in which order the named arguments stand in it. -/
inductive Value.SameEntry : Value → Value → Prop
  | refl (v : Value) : SameEntry v v
  | attributes {fields : Fields} {names names' : List String}
      (h : fields.getD "withAttributes" = .list (names.map .text))
      (hmem : ∀ a, a ∈ names' ↔ a ∈ names) :
      SameEntry (.table fields)
        (.table (Named.set fields "withAttributes" (.list (names'.map .text))))

/-- The same name with the same named arguments, up to how often and in which order these stand. -/
structure Entry.Same (e e' : Entry) : Prop where
  name : e'.name = e.name
  attributes : ∀ a, a ∈ e'.attributes ↔ a ∈ e.attributes

/-- The same names in the same order, which count for the same nodes. -/
structure Blacklist.Agrees (b b' : Blacklist) : Prop where
  names : b'.names = b.names
  holds : ∀ name node, (b'.get? name).map (·.holds node) = (b.get? name).map (·.holds node)

theorem Node.mem_hashKeys {a : String} : a ∈ node.hashKeys ↔ ∃ pair ∈ node.pairs, pair.key = a := by
  rw [hashKeys, pairs]
  cases node.hash? with
  | none => simp
  | some h => simp [Hash.keys]

theorem Condition.holds_passes {attributes : List String} :
    (Condition.passes attributes).holds node ↔
      ∀ a ∈ attributes, ∃ pair ∈ node.pairs, pair.key = a := by
  simp only [holds, Node.passesAll_iff, Node.mem_hashKeys]

/-- A condition does not depend on the order of the pairs, or on one that stands there twice. -/
theorem Condition.holds_congr (c : Condition) (h : ∀ pair, pair ∈ node.pairs ↔ pair ∈ node'.pairs) :
    c.holds node = c.holds node' := by
  cases c with
  | never => rfl
  | passes attributes =>
    rw [Bool.eq_iff_iff, holds_passes, holds_passes]
    simp only [h]

/-- A condition does not depend on the order of its names, or on one that stands there twice. -/
theorem Condition.holds_passes_congr (h : ∀ a, a ∈ names' ↔ a ∈ names) :
    (passes names').holds node = (passes names).holds node := by
  rw [Bool.eq_iff_iff, holds_passes, holds_passes]
  simp only [h]

section Names

variable {α : Type} {table : Named α}

theorem Named.names_set_of_mem (value : α) (h : name ∈ table.names) :
    (table.set name value).names = table.names := by
  induction table with
  | nil => cases h
  | cons entry rest ih =>
    obtain ⟨n, v⟩ := entry
    by_cases hn : n = name
    · rw [set, if_pos hn, names, names, List.map_cons, List.map_cons]
    · have hr : name ∈ Named.names rest := by
        rcases List.mem_cons.mp h with rfl | hr
        · exact (hn rfl).elim
        · exact hr
      rw [set, if_neg hn, names, List.map_cons]
      exact congrArg (n :: ·) (ih hr)

theorem Named.names_set_of_not_mem (value : α) (h : name ∉ table.names) :
    (table.set name value).names = table.names ++ [name] := by
  induction table with
  | nil => rfl
  | cons entry rest ih =>
    obtain ⟨n, v⟩ := entry
    obtain ⟨hn, hr⟩ := not_or.mp fun hm => h (List.mem_cons.mpr hm)
    rw [set, if_neg (Ne.symm hn), names, List.map_cons]
    exact congrArg (n :: ·) (ih hr)

/-- Names that are new stand in the order in which they come. -/
theorem Blacklist.names_foldl_set (entries : List Entry) (b : Blacklist) :
    (entries.foldl (fun b e => Named.set b e.name (.passes e.attributes)) b).names =
      b.names ++ ((entries.map (·.name)).filter (· ∉ b.names)).eraseDups := by
  induction entries generalizing b with
  | nil => simp
  | cons e rest ih =>
    rw [List.foldl_cons, ih]
    by_cases he : e.name ∈ b.names
    · rw [Named.names_set_of_mem _ he]
      simp [he]
    · rw [Named.names_set_of_not_mem _ he]
      have hnew : (rest.map (·.name)).filter (· ∉ b.names ++ [e.name]) =
          ((rest.map (·.name)).filter (· ∉ b.names)).filter fun n => !n == e.name := by
        rw [List.filter_filter]
        refine List.filter_congr ?_
        intro n _
        rw [Bool.eq_iff_iff]
        simp [and_comm]
      rw [hnew, List.map_cons, List.filter_cons_of_pos (by simpa using he), List.eraseDups_cons,
        List.append_assoc, List.singleton_append]

end Names

namespace Entry

theorem mapM_decode_eq_ok_iff :
    items.mapM decode = .ok entries ↔ List.Forall₂ (fun v e => decode v = .ok e) items entries := by
  constructor
  · intro h
    induction items generalizing entries with
    | nil =>
      cases h
      exact .nil
    | cons v rest ih =>
      rw [List.mapM_cons] at h
      cases hv : decode v with
      | error complaint =>
        rw [hv] at h
        cases h
      | ok e =>
        cases hr : rest.mapM decode with
        | error complaint =>
          rw [hv, hr] at h
          cases h
        | ok more =>
          rw [hv, hr] at h
          cases h
          exact .cons hv (ih hr)
  · intro h
    induction h with
    | nil => rfl
    | cons hv _ ih =>
      rw [List.mapM_cons, hv, ih]
      rfl

theorem names_of_mapM_decode (h : items.mapM decode = .ok entries) :
    entries.map (·.name) = entryNames items := by
  rw [mapM_decode_eq_ok_iff] at h
  induction h with
  | nil => rfl
  | cons hv _ ih =>
    rw [List.map_cons, ih, entryNames, entryNames, List.filterMap_cons, (decode_eq_ok hv).1]

theorem decode_table (hn : fields.getD "name" = .text name)
    (ha : fields.getD "withAttributes" = .list (names.map .text)) :
    decode (.table fields) = .ok ⟨name, names⟩ := by
  simp only [decode, hn, ha, Value.texts?_eq_some_iff.mpr rfl]

/-- An entry is still one when its named arguments are repeated or come in another order. -/
theorem decode_sameEntry (h : v.SameEntry v') (hd : decode v = .ok e) :
    ∃ e', decode v' = .ok e' ∧ e.Same e' := by
  cases h with
  | refl => exact ⟨e, hd, rfl, fun _ => .rfl⟩
  | @attributes fields names names' ha hmem =>
    by_cases hn : (Value.table fields).IsNamed
    · obtain ⟨name, hname⟩ := Value.isNamed_table.mp hn
      rw [decode_table hname ha] at hd
      cases hd
      refine ⟨⟨name, names'⟩, decode_table ?_ ?_, rfl, hmem⟩
      · rw [Fields.getD, Named.get?_set, if_neg (by decide), ← Fields.getD, hname]
      · rw [Fields.getD, Named.get?_set, if_pos rfl, Option.getD_some]
    · rw [decode_table_of_not_isNamed hn] at hd
      cases hd

theorem decode_sameEntries (hs : List.Forall₂ Value.SameEntry items items')
    (hd : List.Forall₂ (fun v e => decode v = .ok e) items entries) :
    ∃ entries', List.Forall₂ (fun v e => decode v = .ok e) items' entries' ∧
      List.Forall₂ Same entries entries' := by
  induction hd generalizing items' with
  | nil =>
    cases hs
    exact ⟨[], .nil, .nil⟩
  | cons hv _ ih =>
    cases hs with
    | cons hfirst hrest =>
      obtain ⟨e', he, hsame⟩ := decode_sameEntry hfirst hv
      obtain ⟨more, hmore, hsames⟩ := ih hrest
      exact ⟨e' :: more, .cons he hmore, .cons hsame hsames⟩

end Entry

theorem lastAttributes?_isSome_iff :
    (lastAttributes? items name).isSome ↔ name ∈ entryNames items := by
  constructor
  · intro h
    by_contra hn
    rw [lastAttributes?_eq_none hn] at h
    cases h
  · intro h
    obtain ⟨v, hv, hn⟩ := List.mem_filterMap.mp h
    rw [lastAttributes?, List.getLast?_isSome]
    have hmem : v ∈ items.filter fun v => v.entryName? = some name :=
      List.mem_filter.mpr ⟨hv, decide_eq_true hn⟩
    exact List.ne_nil_of_mem (List.mem_map_of_mem hmem)

/-- An entry decides about its name unless a later one does. -/
theorem lastAttributes?_cons (v : Value) (rest : List Value) (name : String) :
    lastAttributes? (v :: rest) name = (lastAttributes? rest name).or
      (if v.entryName? = some name then some v.entryAttributes else none) := by
  rw [← List.singleton_append, lastAttributes?_append]
  congr 1
  by_cases hn : v.entryName? = some name <;> simp [lastAttributes?, hn]

theorem lastAttributes?_of_last (hn : v.entryName? = some name) (hlast : name ∉ entryNames after) :
    lastAttributes? (before ++ v :: after) name = some v.entryAttributes := by
  rw [lastAttributes?_append, lastAttributes?_cons, lastAttributes?_eq_none hlast, if_pos hn]
  rfl

/-- An entry with a later one of its name counts for nothing. -/
theorem lastAttributes?_of_overridden (hn : v.entryName? = some name)
    (hlater : name ∈ entryNames after) (other : String) :
    lastAttributes? (before ++ v :: after) other = lastAttributes? (before ++ after) other := by
  rw [lastAttributes?_append, lastAttributes?_append, lastAttributes?_cons]
  by_cases ho : v.entryName? = some other
  · rw [hn, Option.some.injEq] at ho
    rw [ho, ← lastAttributes?_isSome_iff] at hlater
    obtain ⟨attributes, ha⟩ := Option.isSome_iff_exists.mp hlater
    rw [ha]
    rfl
  · rw [if_neg ho, Option.or_none]

namespace Blacklist

theorem Agrees.set (h : Agrees b b') {names names' : List String}
    (hmem : ∀ a, a ∈ names' ↔ a ∈ names) (name : String) :
    Agrees (Named.set b name (.passes names)) (Named.set b' name (.passes names')) := by
  constructor
  · by_cases hn : name ∈ b.names
    · have hn' : name ∈ b'.names := by rwa [h.names]
      rw [Named.names_set_of_mem _ hn, Named.names_set_of_mem _ hn', h.names]
    · have hn' : name ∉ b'.names := by rwa [h.names]
      rw [Named.names_set_of_not_mem _ hn, Named.names_set_of_not_mem _ hn', h.names]
  · intro other node
    rw [Named.get?_set, Named.get?_set]
    by_cases ho : other = name
    · rw [if_pos ho, if_pos ho, Option.map_some, Option.map_some,
        Condition.holds_passes_congr hmem]
    · rw [if_neg ho, if_neg ho, h.holds]

theorem Agrees.foldl (h : Agrees b b') (hs : List.Forall₂ Entry.Same entries entries') :
    Agrees (entries.foldl (fun b e => Named.set b e.name (.passes e.attributes)) b)
      (entries'.foldl (fun b e => Named.set b e.name (.passes e.attributes)) b') := by
  induction hs generalizing b b' with
  | nil => exact h
  | cons hsame _ ih =>
    rw [List.foldl_cons, List.foldl_cons, hsame.name]
    exact ih (h.set hsame.attributes _)

variable (h : Setting.classify (.list items) = .compiled b)

include h

theorem compile_of_classify (rule : String) :
    Setting.compile rule (.list items) = .ok (some b) := by
  rw [Setting.compile, h]

theorem names_of_classify : b.names = "*" :: ((entryNames items).filter (· ≠ "*")).eraseDups := by
  obtain ⟨entries, he, rfl⟩ := entries_of_compile (compile_of_classify h Rule.name)
  rw [ofEntries, names_foldl_set, Entry.names_of_mapM_decode he]
  simp [base, Named.names, wildcard]

theorem nodup_names_of_classify : b.names.Nodup := by
  rw [names_of_classify h, List.nodup_cons, List.mem_eraseDups, List.mem_filter]
  exact ⟨by simp, Text.nodup_eraseDups _⟩

theorem mem_names_of_classify : name ∈ b.names ↔ name = "*" ∨ name ∈ entryNames items := by
  rw [names_of_classify h, List.mem_cons, List.mem_eraseDups, List.mem_filter]
  by_cases hw : name = "*" <;> simp [hw]

theorem get?_of_classify (name : String) :
    b.get? name = ((lastAttributes? items name).map .passes).or (base.get? name) :=
  get?_of_compile (compile_of_classify h Rule.name) name

theorem get?_of_last (hi : items = before ++ v :: after) (hn : v.entryName? = some name)
    (hlast : name ∉ entryNames after) : b.get? name = some (.passes v.entryAttributes) := by
  rw [get?_of_classify h, hi, lastAttributes?_of_last hn hlast]
  rfl

theorem get?_wildcard_of_classify (hn : "*" ∉ entryNames items) :
    b.get? "*" = some .never := by
  rw [get?_of_classify h, lastAttributes?_eq_none hn]
  rfl

theorem classify_of_sameEntry (hs : List.Forall₂ Value.SameEntry items items') :
    ∃ b', Setting.classify (.list items') = .compiled b' ∧ Agrees b b' := by
  obtain ⟨entries, he, rfl⟩ := entries_of_compile (compile_of_classify h Rule.name)
  obtain ⟨entries', hd, hsames⟩ :=
    Entry.decode_sameEntries hs (Entry.mapM_decode_eq_ok_iff.mp he)
  refine ⟨ofEntries entries', ?_, Agrees.foldl ⟨rfl, fun _ _ => rfl⟩ hsames⟩
  rw [← Entry.mapM_decode_eq_ok_iff] at hd
  simp only [Setting.classify, hd]

theorem classify_of_overridden (hi : items = before ++ v :: after) (hn : v.entryName? = some name)
    (hlater : name ∈ entryNames after) :
    ∃ b', Setting.classify (.list (before ++ after)) = .compiled b' ∧ b'.names.Perm b.names ∧
      ∀ other, b'.get? other = b.get? other := by
  have hentries : ∀ w ∈ items, w.IsEntry := by
    rcases Setting.classify_eq_compiled_iff.mp ⟨b, h⟩ with hb | ⟨_, ⟨rfl⟩, hall⟩
    · cases hb
    · exact hall
  have hrest : ∀ w ∈ before ++ after, w.IsEntry := by
    intro w hw
    refine hentries w ?_
    rw [hi]
    exact (List.sublist_cons_self v after).append_left before |>.mem hw
  obtain ⟨b', h'⟩ := Setting.classify_list_of_entries hrest
  refine ⟨b', h', ?_, ?_⟩
  · refine (List.perm_ext_iff_of_nodup (nodup_names_of_classify h')
      (nodup_names_of_classify h)).mpr ?_
    intro other
    rw [mem_names_of_classify h', mem_names_of_classify h, hi, ← lastAttributes?_isSome_iff,
      ← lastAttributes?_isSome_iff, lastAttributes?_of_overridden hn hlater]
  · intro other
    rw [get?_of_classify h', get?_of_classify h, hi, lastAttributes?_of_overridden hn hlater]

end Blacklist

/-- What an accepted list of entries is compiled to. The wildcard comes first and the other names in
the order of their first entries. A name counts as its last entry says, for an invocation that
passes all of its named arguments, and without an entry the wildcard counts for nothing. What is
repeated or comes in another order in a condition or in an invocation changes nothing, and neither
does an entry that a later one overrides. -/
theorem compiled_names_and_conditions (h : Setting.classify (.list items) = .compiled b) :
    b.names = "*" :: ((entryNames items).filter (· ≠ "*")).eraseDups ∧
    (∀ before v after name, items = before ++ v :: after → v.entryName? = some name →
      name ∉ entryNames after → ∃ c, b.get? name = some c ∧
        ∀ node, c.holds node ↔ ∀ a ∈ v.entryAttributes, ∃ pair ∈ node.pairs, pair.key = a) ∧
    ("*" ∉ entryNames items → ∃ c, b.get? "*" = some c ∧ ∀ node, c.holds node = false) ∧
    (∀ name c node node', b.get? name = some c →
      (∀ pair, pair ∈ node.pairs ↔ pair ∈ node'.pairs) → c.holds node = c.holds node') ∧
    (∀ items', List.Forall₂ Value.SameEntry items items' →
      ∃ b', Setting.classify (.list items') = .compiled b' ∧ b.Agrees b') ∧
    ∀ before v after name, items = before ++ v :: after → v.entryName? = some name →
      name ∈ entryNames after → ∃ b', Setting.classify (.list (before ++ after)) = .compiled b' ∧
        b'.names.Perm b.names ∧ ∀ other, b'.get? other = b.get? other := by
  refine ⟨Blacklist.names_of_classify h, ?_, ?_, ?_, ?_, ?_⟩
  · intro before v after name hi hn hlast
    exact ⟨_, Blacklist.get?_of_last h hi hn hlast, fun _ => Condition.holds_passes⟩
  · intro hn
    exact ⟨.never, Blacklist.get?_wildcard_of_classify h hn, fun _ => rfl⟩
  · intro name c node node' _ hpairs
    exact c.holds_congr hpairs
  · intro items' hs
    exact Blacklist.classify_of_sameEntry h hs
  · intro before v after name hi hn hlater
    exact Blacklist.classify_of_overridden h hi hn hlater

/-- An entry for some named arguments. -/
def entryFor (name : String) (names : List String) : Value :=
  .table [("name", .text name), ("withAttributes", .list (names.map .text))]

/-- An invocation with these named arguments. -/
def invocationWith (names : List String) : Node :=
  .mustacheStatement (.null none) [] ⟨names.map fun a => ⟨a, .null none, none⟩, none⟩ false none

/-- A name that comes twice, before and after another one. -/
theorem compiled_names_and_conditions_name_twice :
    ∃ b, Setting.classify (.list [.text "a", entryFor "b" ["x", "y", "x"], entryFor "a" ["y"]]) =
        .compiled b ∧
      b.names = ["*", "a", "b"] ∧
      (∃ c, b.get? "a" = some c ∧
        ∀ node, c.holds node ↔ ∀ a ∈ ["y"], ∃ pair ∈ node.pairs, pair.key = a) ∧
      (∃ c, b.get? "*" = some c ∧ ∀ node, c.holds node = false) ∧
      (∀ c, b.get? "b" = some c →
        c.holds (invocationWith ["x", "y", "x"]) = c.holds (invocationWith ["y", "x"])) ∧
      (∃ b', Setting.classify (.list [.text "a", entryFor "b" ["y", "x"], entryFor "a" ["y"]]) =
        .compiled b' ∧ b.Agrees b') ∧
      ∃ b', Setting.classify (.list [entryFor "b" ["x", "y", "x"], entryFor "a" ["y"]]) =
        .compiled b' ∧ b'.names.Perm b.names ∧ ∀ other, b'.get? other = b.get? other := by
  have hc : Setting.classify (.list [.text "a", entryFor "b" ["x", "y", "x"], entryFor "a" ["y"]]) =
    .compiled [("*", .never), ("a", .passes ["y"]), ("b", .passes ["x", "y", "x"])] := rfl
  obtain ⟨hnames, hlast, hwildcard, hpairs, hsame, hoverridden⟩ := compiled_names_and_conditions hc
  have hbody : List.Forall₂ Value.SameEntry
      [.text "a", entryFor "b" ["x", "y", "x"], entryFor "a" ["y"]]
      [.text "a", entryFor "b" ["y", "x"], entryFor "a" ["y"]] := by
    refine .cons (.refl _) (.cons ?_ (.cons (.refl _) .nil))
    refine @Value.SameEntry.attributes _ ["x", "y", "x"] ["y", "x"] rfl ?_
    intro a
    simp only [List.mem_cons, List.not_mem_nil, or_false]
    tauto
  refine ⟨_, hc, hnames, ?_, ?_, ?_, hsame _ hbody, ?_⟩
  · exact hlast [.text "a", entryFor "b" ["x", "y", "x"]] (entryFor "a" ["y"]) [] "a" rfl rfl nofun
  · exact hwildcard (by decide)
  · intro c h
    refine hpairs "b" c _ _ h ?_
    intro pair
    simp only [Node.pairs, invocationWith, Node.hash?, Option.elim, List.map_cons, List.map_nil,
      List.mem_cons, List.not_mem_nil, or_false]
    tauto
  · exact hoverridden [] (.text "a") _ "a" rfl rfl (by decide)

end TemplateLint
