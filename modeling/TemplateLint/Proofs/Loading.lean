import TemplateLint.Proofs.Grammar
import TemplateLint.Proofs.Locations

/-!
What the readers of documents take: one lemma for each reader says what derives when it gives
something, what form the tree then has, and why it refuses when it does not.
-/

namespace TemplateLint

open Decode

namespace Value

variable {items : List Value} {fields : Fields} {name : String} {v : Value}

theorem isFinite_of_mem (hv : v ∈ items) (h : (list items).isFinite) : v.isFinite := by
  rw [isFinite] at h
  induction items with
  | nil => cases hv
  | cons w rest ih =>
    rw [itemsFinite, Bool.and_eq_true] at h
    rcases List.mem_cons.mp hv with rfl | hv
    · exact h.1
    · exact ih hv h.2

theorem isFinite_of_get? (hv : fields.get? name = some v) (h : (table fields).isFinite) :
    v.isFinite := by
  rw [isFinite] at h
  induction fields with
  | nil => cases hv
  | cons entry rest ih =>
    obtain ⟨n, w⟩ := entry
    rw [fieldsFinite, Bool.and_eq_true] at h
    rw [Named.get?, List.lookup_cons] at hv
    split at hv
    · cases hv
      exact h.1
    · exact ih hv h.2

theorem isFinite_field {w : Value} (hw : w.field name = v) (h : w.isFinite) : v.isFinite := by
  cases w with
  | table fields =>
    rw [field, Fields.getD] at hw
    cases hg : Named.get? fields name with
    | none =>
      rw [hg] at hw
      cases hw
      rfl
    | some x =>
      rw [hg] at hw
      cases hw
      exact isFinite_of_get? hg h
  | _ =>
    cases hw
    rfl

end Value

namespace Location

variable {loc : Value} {x : Option Value}

theorem isFinite_of_mem_coordinates {v : Value} (h : loc.isFinite)
    (hv : some v ∈ coordinates loc) : v.isFinite := by
  unfold coordinates at hv
  split at hv
  · rename_i start hs
    have hstart := Value.isFinite_field hs h
    simp only [List.mem_cons, List.not_mem_nil, or_false] at hv
    rcases hv with hv | hv | hv | hv
    · exact Value.isFinite_of_get? hv.symm hstart
    · exact Value.isFinite_of_get? hv.symm hstart
    · split at hv
      · exact Value.isFinite_of_get? hv.symm (Value.isFinite_field (by assumption) h)
      · exact Value.isFinite_of_get? hv.symm hstart
    · split at hv
      · exact Value.isFinite_of_get? hv.symm (Value.isFinite_field (by assumption) h)
      · exact Value.isFinite_of_get? hv.symm hstart
  · cases hv

theorem isInfinite_eq_false (h : ∀ v, x = some v → v.isFinite) : isInfinite x = false := by
  unfold isInfinite
  split
  · have hv := h _ rfl
    rw [Value.isFinite] at hv
    cases hv
  · rfl

theorem overflows_eq_false_of_isFinite (h : loc.isFinite) : overflows loc = false := by
  unfold overflows
  cases hf : (coordinates loc).find? fun v => !isInteger v with
  | none => rfl
  | some x =>
    have hx := List.mem_of_find?_eq_some hf
    rw [Option.any_some]
    refine isInfinite_eq_false fun v hv => ?_
    rw [hv] at hx
    exact isFinite_of_mem_coordinates h hx

theorem decode_eq_read (fields : Fields) :
    decode fields = match fields.get? "loc" with
      | none => .ok none
      | some loc => read loc := by
  rw [decode]
  cases fields.get? "loc" with
  | none => rfl
  | some loc => rfl

end Location

variable {α β : Type} {finite finite' derives derives' : Prop} {form form' : α → Prop}
  {x : Except DecodeError α}

/-- A reader gives something only when the document derives, and that has a form. It refuses a
document that derives only for an infinite position, and such a document is not finite. -/
def Loads (finite derives : Prop) (form : α → Prop) (x : Except DecodeError α) : Prop :=
  match x with
  | .ok a => derives ∧ form a
  | .error e => (derives → e = .infinitePosition) ∧ (e = .infinitePosition → ¬ finite)

namespace Loads

theorem pure {a : α} (h : form a) : Loads finite True form (Pure.pure a) :=
  ⟨trivial, h⟩

theorem ok {a : α} (hd : derives) (h : form a) : Loads finite derives form (.ok a) :=
  ⟨hd, h⟩

theorem error {e : DecodeError} (hd : ¬ derives) (he : e ≠ .infinitePosition) :
    Loads finite derives form (.error e) :=
  ⟨fun h => (hd h).elim, fun h => (he h).elim⟩

/-- A field that must be there is absent. -/
theorem absent {e : DecodeError} (he : e ≠ .infinitePosition) :
    Loads finite ((∃ v, (none : Option Value) = some v) ∧ derives) form (.error e) := by
  refine .error ?_ he
  rintro ⟨⟨v, hv⟩, -⟩
  cases hv

/-- A field that may only be absent or count as false. -/
theorem ofFalsy {v : Value} {e : DecodeError} {a : α} (hd : derives ↔ v.truthy = false)
    (hf : form a) (he : e ≠ .infinitePosition) :
    Loads finite derives form (if v.truthy then .error e else .ok a) := by
  by_cases ht : v.truthy
  · rw [if_pos ht]
    refine .error (fun h => ?_) he
    rw [hd.mp h] at ht
    cases ht
  · rw [if_neg ht]
    exact .ok (hd.mpr (by simpa using ht)) hf

theorem mono (h : Loads finite derives form x) (hd : derives ↔ derives')
    (hf : ∀ a, form a → form' a) : Loads finite derives' form' x := by
  cases x with
  | ok a => exact ⟨hd.mp h.1, hf a h.2⟩
  | error e => exact ⟨fun h' => h.1 (hd.mpr h'), h.2⟩

theorem congr (h : Loads finite derives form x) (hd : derives ↔ derives') :
    Loads finite derives' form x :=
  h.mono hd fun _ ha => ha

theorem within (h : Loads finite' derives form x) (hf : finite → finite') :
    Loads finite derives form x := by
  cases x with
  | ok a => exact h
  | error e => exact ⟨h.1, fun he hn => h.2 he (hf hn)⟩

theorem bind {form' : β → Prop} {f : α → Except DecodeError β} (h : Loads finite derives form x)
    (hf : ∀ a, form a → Loads finite derives' form' (f a)) :
    Loads finite (derives ∧ derives') form' (x >>= f) := by
  cases x with
  | ok a =>
    have ha := hf a h.2
    change Loads finite (derives ∧ derives') form' (f a)
    exact ha.congr ⟨fun hd => ⟨h.1, hd⟩, And.right⟩
  | error e => exact ⟨fun hd => h.1 hd.1, h.2⟩

theorem mapM {f : Value → Except DecodeError α} {derives : Value → Prop} {items : List Value}
    (h : ∀ v ∈ items, Loads finite (derives v) form (f v)) :
    Loads finite (∀ v ∈ items, derives v) (fun as => ∀ a ∈ as, form a) (items.mapM f) := by
  induction items with
  | nil => exact .ok (by simp) (by simp)
  | cons v rest ih =>
    rw [List.mapM_cons]
    have hv := h v List.mem_cons_self
    have hr := ih fun w hw => h w (List.mem_cons_of_mem v hw)
    refine (hv.bind fun a ha => hr.bind fun as has => .pure ?_).congr ?_
    · exact List.forall_mem_cons.mpr ⟨ha, has⟩
    · rw [and_true, List.forall_mem_cons]

end Loads

/-- The form of the node that is read from a value: its kind is the one that the value names. -/
def Node.ReadFrom (v : Value) (t : Node) : Prop :=
  t.Loadable ∧ Kind.ofValue? (v.field "type") = some t.kind

/-- What the reader of nodes does with values of a lesser size. -/
def LoadsBelow (n : Nat) : Prop :=
  ∀ v : Value, sizeOf v < n →
    Loads v.isFinite (Derives .node v) (Node.ReadFrom v) (Decode.node v)

namespace Loads

variable {n : Nat} {fields : Fields} {items : List Value} {key : String}

theorem location (fields : Fields) :
    Loads (Value.table fields).isFinite True (fun _ => True) (Location.decode fields) := by
  rw [Location.decode_eq_read]
  cases hl : fields.get? "loc" with
  | none => exact .ok trivial trivial
  | some loc =>
    have hr := Location.read_eq loc
    by_cases ho : Location.overflows loc
    · rw [if_pos ho] at hr
      simp only [hr]
      refine ⟨fun _ => rfl, fun _ hn => ?_⟩
      have hf := Location.overflows_eq_false_of_isFinite (Value.isFinite_of_get? hl hn)
      rw [hf] at ho
      cases ho
    · rw [if_neg ho] at hr
      obtain ⟨l, hl⟩ := hr
      simp only [hl]
      exact .ok trivial trivial

theorem require (fields : Fields) (key : String) :
    Loads finite (∃ v, fields.get? key = some v) (fun _ => True) (Decode.require fields key) := by
  rw [Decode.require]
  cases hv : fields.get? key with
  | none => exact .error (by simp) (by simp)
  | some v => exact .ok ⟨v, rfl⟩ trivial

theorem texts?_list (items : List Value) :
    match (Value.list items).texts? with
    | some _ => ∀ v ∈ items, Derives .text v
    | none => ¬ ∀ v ∈ items, Derives .text v := by
  rw [Value.texts?]
  induction items with
  | nil => simp
  | cons v rest ih =>
    rw [List.mapM_cons]
    cases hv : v.text? with
    | none =>
      intro h
      obtain ⟨s, rfl⟩ := Derives.text_iff.mp (h v List.mem_cons_self)
      cases hv
    | some s =>
      have ht : v = .text s := by
        cases v with
        | text s' =>
          cases hv
          rfl
        | _ => cases hv
      cases hr : rest.mapM Value.text? with
      | none =>
        rw [hr] at ih
        exact fun h => ih fun w hw => h w (List.mem_cons_of_mem v hw)
      | some names =>
        rw [hr] at ih
        exact List.forall_mem_cons.mpr ⟨ht ▸ .text s, ih⟩

theorem blockParams (fields : Fields) :
    Loads finite (Derives .names (fields.getD "blockParams")) (fun _ => True)
      (Decode.blockParams fields) := by
  rw [Decode.blockParams]
  cases fields.getD "blockParams" with
  | null => exact .ok .noNames trivial
  | list items =>
    have ht := texts?_list items
    simp only
    split <;> rename_i names hn
    · rw [hn] at ht
      exact .ok (.names ht) trivial
    · rw [hn] at ht
      exact .error (fun h => ht (Derives.names_list_iff.mp h)) (by simp)
  | _ => exact .error (by rintro ⟨⟩) (by simp)

theorem nodes (ih : LoadsBelow n) (hs : sizeOf fields < n) (key : String) :
    Loads (Value.table fields).isFinite (Derives .nodes (fields.getD key))
      (fun ts => ∀ t ∈ ts, t.Loadable) (Decode.nodes fields key) := by
  rw [nodes_eq, Fields.getD]
  cases hg : fields.get? key with
  | none => exact .ok .noNodes (List.forall_mem_nil _)
  | some v =>
    cases v with
    | null => exact .ok .noNodes (List.forall_mem_nil _)
    | list items =>
      have hl := Fields.sizeOf_list_lt hg
      have hm : Loads (Value.list items).isFinite (∀ v ∈ items, Derives .node v)
          (fun ts => ∀ t ∈ ts, t.Loadable) (items.mapM Decode.node) := by
        refine .mapM fun v hv => ?_
        have hi := List.sizeOf_lt_of_mem hv
        refine ((ih v (by omega)).within (Value.isFinite_of_mem hv)).mono Iff.rfl ?_
        exact fun t ht => ht.1
      exact (hm.within (Value.isFinite_of_get? hg)).congr Derives.nodes_list_iff.symm
    | _ => exact .error (by rintro ⟨⟩) (by simp)

theorem required (ih : LoadsBelow n) (hs : sizeOf fields < n) (key : String) :
    Loads (Value.table fields).isFinite
      ((∃ v, fields.get? key = some v) ∧ Derives .node (fields.getD key)) Node.Loadable
      (Decode.required fields key) := by
  rw [required_eq, Fields.getD]
  cases hg : fields.get? key with
  | none => exact .absent (by simp)
  | some v =>
    have hl := Named.sizeOf_get?_lt hg
    refine ((ih v (by omega)).within (Value.isFinite_of_get? hg)).mono ?_ fun t ht => ht.1
    simp

theorem path (ih : LoadsBelow n) (hs : sizeOf fields < n) :
    Loads (Value.table fields).isFinite
      ((∃ v, fields.get? "path" = some v) ∧ Derives .path (fields.getD "path")) (fun _ => True)
      (Decode.path fields) := by
  rw [path_eq, Fields.getD]
  cases hg : fields.get? "path" with
  | none => exact .absent (by simp)
  | some v =>
    have hl := Named.sizeOf_get?_lt hg
    have hn := (ih v (by omega)).within (Value.isFinite_of_get? hg)
    have hp : ∀ t, Node.ReadFrom v t → Loads ((Value.table fields).isFinite = true)
        (Kind.ofValue? (v.field "type") = some .path) (fun _ => True) (asPath v t) := by
      intro t ht
      rw [ht.2]
      cases t with
      | path p => exact .ok rfl trivial
      | _ => exact .error (by rintro ⟨⟩) (by simp)
    refine (hn.bind hp).congr ?_
    simp [Derives.path_iff, and_comm]

theorem pair (ih : LoadsBelow n) {v : Value} (hs : sizeOf v < n + 1) :
    Loads v.isFinite (Derives .pair v) (fun p => (Node.hashPair p).WellFormed) (Decode.pair v) := by
  cases v with
  | table fields =>
    rw [Value.table.sizeOf_spec] at hs
    rw [Decode.pair]
    cases hg : Named.get? fields "key" with
    | none =>
      have hr : Decode.require fields "key" =
        .error (.missing ((Named.get? fields "type").getD (.text "node")) "key") := by
        rw [Decode.require, hg]
      rw [hr]
      refine .error (fun h => ?_) (by simp)
      obtain ⟨⟨s, hk⟩, -⟩ := Derives.pair_table_iff.mp h
      rw [hg] at hk
      cases hk
    | some found =>
      have hr : Decode.require fields "key" = .ok found := by rw [Decode.require, hg]
      rw [hr]
      cases found with
      | text s =>
        have hf : sizeOf fields < n := by omega
        have hv := required ih hf "value"
        refine (hv.bind fun value hl => (location fields).bind fun loc _ => .pure ?_).congr ?_
        · exact Node.wellFormed_of_loadable fun child hc => List.mem_singleton.mp hc ▸ hl
        · simp [Derives.pair_table_iff, hg]
      | _ =>
        refine .error (fun h => ?_) (by simp)
        obtain ⟨⟨s, hk⟩, -⟩ := Derives.pair_table_iff.mp h
        rw [hg] at hk
        cases hk
  | _ =>
    rw [Decode.pair]
    · exact .error (by rintro ⟨⟩) (by simp)
    · simp

theorem pairs (ih : LoadsBelow n) (hs : sizeOf fields < n) :
    Loads (Value.table fields).isFinite (Derives .pairs (fields.getD "pairs"))
      (fun ps => ∀ p ∈ ps, (Node.hashPair p).WellFormed) (Decode.pairs fields) := by
  rw [pairs_eq, Fields.getD]
  cases hg : fields.get? "pairs" with
  | none => exact .ok (.noPairs rfl) (List.forall_mem_nil _)
  | some v =>
    cases v with
    | list items =>
      have hl := Fields.sizeOf_list_lt hg
      have hm : Loads (Value.list items).isFinite (∀ v ∈ items, Derives .pair v)
          (fun ps => ∀ p ∈ ps, (Node.hashPair p).WellFormed) (items.mapM Decode.pair) := by
        refine .mapM fun v hv => ?_
        have hi := List.sizeOf_lt_of_mem hv
        exact (pair ih (by omega)).within (Value.isFinite_of_mem hv)
      exact (hm.within (Value.isFinite_of_get? hg)).congr Derives.pairs_list_iff.symm
    | _ =>
      exact .ofFalsy (Derives.pairs_iff_falsy (by simp)) (List.forall_mem_nil _) (by simp)

theorem hashObject (ih : LoadsBelow n) (hs : sizeOf fields < n) :
    Loads (Value.table fields).isFinite (Derives .hash (.table fields))
      (fun h => (Node.hash h).WellFormed) (Decode.hashObject fields) := by
  rw [Decode.hashObject]
  refine ((pairs ih hs).bind fun ps hp => (location fields).bind fun loc _ => .pure ?_).congr ?_
  · exact Node.wellFormed_hash hp
  · simp [Derives.hash_table_iff]

theorem hash (ih : LoadsBelow n) (hs : sizeOf fields < n) :
    Loads (Value.table fields).isFinite (Derives .hash (fields.getD "hash"))
      (fun h => (Node.hash h).WellFormed) (Decode.hash fields) := by
  rw [hash_eq, Fields.getD]
  cases hg : fields.get? "hash" with
  | none => exact .ok (.noHash rfl) (Node.wellFormed_of_no_children rfl)
  | some v =>
    cases v with
    | table given =>
      have hl := Fields.sizeOf_table_lt hg
      exact (hashObject ih (by omega)).within (Value.isFinite_of_get? hg)
    | _ =>
      exact .ofFalsy (Derives.hash_iff_falsy (by simp)) (Node.wellFormed_of_no_children rfl)
        (by simp)

theorem blockObject (ih : LoadsBelow n) (hs : sizeOf fields < n) :
    Loads (Value.table fields).isFinite (Derives .block (.table fields))
      (fun b => (Node.block b).WellFormed) (Decode.blockObject fields) := by
  rw [Decode.blockObject]
  refine ((nodes ih hs "body").bind fun body hb => (blockParams fields).bind fun names _ =>
    (location fields).bind fun loc _ => .pure ?_).congr ?_
  · exact Node.wellFormed_of_loadable hb
  · simp [Derives.block_table_iff]

theorem program (ih : LoadsBelow n) (hs : sizeOf fields < n) :
    Loads (Value.table fields).isFinite
      ((∃ v, fields.get? "program" = some v) ∧ Derives .block (fields.getD "program"))
      (fun b => (Node.block b).WellFormed) (Decode.program fields) := by
  rw [program_eq, Fields.getD]
  cases hg : fields.get? "program" with
  | none => exact .absent (by simp)
  | some v =>
    cases v with
    | null => exact .ok ⟨⟨_, rfl⟩, .noBlock⟩ (Node.wellFormed_of_no_children rfl)
    | table given =>
      have hl := Fields.sizeOf_table_lt hg
      refine ((blockObject ih (by omega)).within (Value.isFinite_of_get? hg)).congr ?_
      simp
    | _ => exact .error (by rintro ⟨-, ⟨⟩⟩) (by simp)

theorem inverse (ih : LoadsBelow n) (hs : sizeOf fields < n) :
    Loads (Value.table fields).isFinite (Derives .block (fields.getD "inverse"))
      (fun b => ∀ c ∈ b, (Node.block c).WellFormed) (Decode.inverse fields) := by
  rw [inverse_eq, Fields.getD]
  cases hg : fields.get? "inverse" with
  | none => exact .ok .noBlock (by simp)
  | some v =>
    cases v with
    | null => exact .ok .noBlock (by simp)
    | table given =>
      have hl := Fields.sizeOf_table_lt hg
      have hs' : sizeOf given < n := by omega
      have hb := (blockObject ih hs').within (Value.isFinite_of_get? hg)
      change Loads _ _ _ (some <$> Decode.blockObject given)
      rw [map_eq_pure_bind]
      refine (hb.bind fun b hw => .pure ?_).congr (by simp)
      intro c hc
      cases hc
      exact hw
    | _ => exact .error (by rintro ⟨⟩) (by simp)

theorem object (ih : LoadsBelow n) (hs : sizeOf fields < n) :
    Loads (Value.table fields).isFinite (Derives .node (.table fields))
      (Node.ReadFrom (.table fields)) (Decode.object fields) := by
  rw [Decode.object]
  refine ((location fields).bind fun loc _ => ?_).congr (Iff.of_eq (true_and _))
  cases hk : Kind.ofValue? (fields.getD "type") with
  | none =>
    simp only [hk]
    refine .error (fun h => ?_) (by simp)
    cases h with
    | node hk' => cases hk.symm.trans hk'
  | some kind =>
    simp only [hk]
    refine Loads.congr ?_ (Derives.node_iff hk).symm
    -- An object of the kind of pairs names no kind that is read by itself.
    by_cases hp : kind = .hashPair
    · subst hp
      refine .error ?_ (by simp)
      rintro ⟨required, hf, -⟩
      cases hf
    have readFrom {t : Node} (ht : t.WellFormed) (he : t.kind = kind) :
        Node.ReadFrom (.table fields) t := ⟨⟨ht, he ▸ hp⟩, he ▸ hk⟩
    cases kind with
    | template =>
      refine ((nodes ih hs "body").bind fun body hb => (blockParams fields).bind fun names _ =>
        .pure ?_).congr ?_
      · exact readFrom (Node.wellFormed_of_loadable hb) rfl
      · simp [Kind.fields?, Symbol.blockFields]
    | block =>
      refine ((blockObject ih hs).bind fun b hb => .pure ?_).congr ?_
      · exact readFrom hb rfl
      · simp [Kind.fields?, Symbol.blockFields, Derives.block_table_iff]
    | blockStatement =>
      refine ((path ih hs).bind fun p _ => (nodes ih hs "params").bind fun params hp =>
        (hash ih hs).bind fun h hh => (program ih hs).bind fun b hb => (inverse ih hs).bind
        fun i hi => .pure ?_).congr ?_
      · refine readFrom (Node.wellFormed_of_loadable fun child hc => ?_) rfl
        have hc : child ∈ Node.path p :: params ++ [Node.hash h] ∨
            child ∈ Node.block b :: i.toList.map Node.block := by
          simpa [Node.children, or_assoc] using hc
        rcases hc with hc | hc
        · exact Node.loadable_arguments (Node.loadable_path p) hp hh child hc
        · exact Node.loadable_blocks hb hi child hc
      · simp [Kind.fields?, and_assoc]
    | mustacheStatement =>
      refine ((required ih hs "path").bind fun callee hc => (nodes ih hs "params").bind
        fun params hp => (hash ih hs).bind fun h hh => .pure ?_).congr ?_
      · exact readFrom (Node.wellFormed_of_loadable (Node.loadable_arguments hc hp hh)) rfl
      · simp [Kind.fields?, and_assoc]
    | subExpression | elementModifier =>
      refine ((path ih hs).bind fun p _ => (nodes ih hs "params").bind fun params hp =>
        (hash ih hs).bind fun h hh => .pure ?_).congr ?_
      · exact readFrom (Node.wellFormed_of_loadable
          (Node.loadable_arguments (Node.loadable_path p) hp hh)) rfl
      · simp [Kind.fields?, and_assoc]
    | path =>
      refine ((require fields "original").bind fun v _ => .pure ?_).congr ?_
      · exact readFrom (Node.wellFormed_of_no_children rfl) rfl
      · simp [Kind.fields?, Derives.anything]
    | string | number | boolean =>
      refine ((require fields "value").bind fun v _ => .pure ?_).congr ?_
      · exact readFrom (Node.wellFormed_of_no_children rfl) rfl
      · simp [Kind.fields?, Derives.anything]
    | null | undefined | text | comment | mustacheComment =>
      refine .ok ⟨[], rfl, List.forall_mem_nil _⟩ ?_
      exact readFrom (Node.wellFormed_of_no_children rfl) rfl
    | hash =>
      refine ((hashObject ih hs).bind fun h hh => .pure ?_).congr ?_
      · exact readFrom hh rfl
      · simp [Kind.fields?, Symbol.hashFields, Derives.hash_table_iff]
    | hashPair => exact (hp rfl).elim
    | element =>
      refine ((require fields "tag").bind fun tag _ => (nodes ih hs "attributes").bind
        fun attributes ha => (nodes ih hs "modifiers").bind fun modifiers hm =>
        (nodes ih hs "children").bind fun children hc => (blockParams fields).bind fun names _ =>
        .pure ?_).congr ?_
      · refine readFrom (Node.wellFormed_of_loadable ?_) rfl
        exact List.forall_mem_append.mpr ⟨List.forall_mem_append.mpr ⟨ha, hm⟩, hc⟩
      · simp [Kind.fields?, Derives.anything]
    | attr =>
      refine ((require fields "name").bind fun name _ => (required ih hs "value").bind
        fun value hv => .pure ?_).congr ?_
      · refine readFrom (Node.wellFormed_of_loadable ?_) rfl
        exact List.forall_mem_singleton.mpr hv
      · simp [Kind.fields?, Derives.anything]
    | concat =>
      refine ((nodes ih hs "parts").bind fun parts hp => .pure ?_).congr ?_
      · exact readFrom (Node.wellFormed_of_loadable hp) rfl
      · simp [Kind.fields?]

theorem node (v : Value) :
    Loads v.isFinite (Derives .node v) (Node.ReadFrom v) (Decode.node v) := by
  induction hn : sizeOf v using Nat.strong_induction_on generalizing v with
  | _ n ih =>
    cases v with
    | table fields =>
      have below : LoadsBelow n := fun w hw => ih _ hw w rfl
      rw [Value.table.sizeOf_spec] at hn
      rw [Decode.node]
      exact object below (by omega)
    | _ =>
      rw [Decode.node]
      · exact .error (by rintro ⟨⟩) (by simp)
      · simp

end Loads

/-- A document without an infinite number loads exactly when it derives from the grammar; else it
is refused, and the refusal is not about an infinite position. -/
theorem decode_iff_derives {document : Value} (h : document.isFinite) :
    ((∃ tree, Node.decode document = .ok tree) ↔ Derives .node document) ∧
      ∀ e, Node.decode document = .error e → e ≠ .infinitePosition := by
  have hn := Loads.node document
  rw [← Node.decode] at hn
  cases hd : Node.decode document with
  | ok tree =>
    rw [hd] at hn
    exact ⟨⟨fun _ => hn.1, fun _ => ⟨tree, rfl⟩⟩, by simp⟩
  | error e =>
    rw [hd] at hn
    have he : e ≠ .infinitePosition := fun he => hn.2 he h
    refine ⟨⟨by simp, fun hg => (he (hn.1 hg)).elim⟩, ?_⟩
    intro e' he'
    cases he'
    exact he

/-- The document of a pair, which is no document of a node. -/
def pairDocument : Value :=
  .table [("type", .text "HashPair"), ("key", .text "src"),
    ("value", .table [("type", .text "NullLiteral")])]

theorem derives_attrDocument : Derives .node attrDocument := by
  have ht : Kind.ofValue? (Fields.getD [("type", .text "TextNode"), ("chars", .text "main")]
    "type") = some .text := rfl
  have hv : Derives .node (.table [("type", .text "TextNode"), ("chars", .text "main")]) :=
    .node ht rfl (List.forall_mem_nil _) (List.forall_mem_nil _)
  have ha : Kind.ofValue? (Fields.getD [("type", .text "AttrNode"), ("name", .text "class"),
    ("value", .table [("type", .text "TextNode"), ("chars", .text "main")])] "type") =
    some .attr := rfl
  refine (Derives.node_iff ha).mpr ⟨_, rfl, ?_⟩
  exact List.forall_mem_cons.mpr ⟨⟨fun _ => ⟨_, rfl⟩, .anything _⟩,
    List.forall_mem_singleton.mpr ⟨fun _ => ⟨_, rfl⟩, hv⟩⟩

theorem decode_iff_derives_attrDocument :
    (∃ tree, Node.decode attrDocument = .ok tree) ∧
      ¬ ∃ tree, Node.decode pairDocument = .ok tree := by
  have ha : attrDocument.isFinite := rfl
  have hp : pairDocument.isFinite := rfl
  rw [(decode_iff_derives ha).1, (decode_iff_derives hp).1]
  refine ⟨derives_attrDocument, fun h => ?_⟩
  cases h with
  | node hk hf =>
    cases hk
    cases hf

end TemplateLint
