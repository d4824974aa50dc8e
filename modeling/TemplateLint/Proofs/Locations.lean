import TemplateLint.Proofs.RelocatedObjects

/-!
Locations and loading. Main statement: a location decides whether a document loads only when a
line or a column of it is infinite.
-/

namespace TemplateLint

variable {loc : Value}

namespace Location

/-- What an object gives for its lines and columns, in the order of reading. What is no object in
place of the end counts as the start. -/
def coordinates (loc : Value) : List (Option Value) :=
  match loc.field "start" with
  | .table (start : Fields) =>
    let stop : Fields := match loc.field "end" with | .table stop => stop | _ => start
    [start.get? "line", start.get? "column", stop.get? "line", stop.get? "column"]
  | _ => []

def isInteger : Option Value → Bool
  | some (.bool _) | some (.int _) => true
  | some (.float x) => x.truncate?.isSome
  | some (.text s) => (Text.integer? s).isSome
  | _ => false

def isInfinite : Option Value → Bool
  | some (.float (.infinite _)) => true
  | _ => false

/-- Whether the first line or column that is no integer is an infinite number. -/
def overflows (loc : Value) : Bool :=
  ((coordinates loc).find? fun v => !isInteger v).any isInfinite

/-- The reader takes the values for integers one after the other. The first one that is none ends
the reading: with a fault when it is infinite, else with nothing read. -/
def Reads {α : Type} (vs : List (Option Value)) (x : OptionT (Except DecodeError) α) : Prop :=
  match vs.find? fun v => !isInteger v with
  | none => ∃ a, x.run = .ok (some a)
  | some v => x.run = if isInfinite v then .error .infinitePosition else .ok none

namespace Reads

variable {α β : Type} {vs ws : List (Option Value)} {x : OptionT (Except DecodeError) α}

theorem pure (a : α) : Reads [] (Pure.pure a : OptionT (Except DecodeError) α) :=
  ⟨a, rfl⟩

theorem bind {f : α → OptionT (Except DecodeError) β} (h : Reads vs x)
    (hf : ∀ a, Reads ws (f a)) : Reads (vs ++ ws) (x >>= f) := by
  unfold Reads at *
  rw [List.find?_append, OptionT.run_bind]
  cases hv : vs.find? fun v => !isInteger v with
  | none =>
    rw [hv] at h
    obtain ⟨a, ha⟩ := h
    rw [ha]
    exact hf a
  | some v =>
    rw [hv] at h
    change x.run = _ at h
    change Option.elimM x.run _ _ = ite (isInfinite v) _ _
    rw [h]
    by_cases hi : isInfinite v
    · rw [if_pos hi, if_pos hi]
      rfl
    · rw [if_neg hi, if_neg hi]
      rfl

theorem coordinate (fields : Fields) (name : String) :
    Reads [fields.get? name] (Position.coordinate fields name) := by
  unfold Reads Position.coordinate
  cases fields.get? name with
  | none => rfl
  | some v =>
    cases v with
    | bool b => exact ⟨_, rfl⟩
    | int n => exact ⟨n, rfl⟩
    | float x =>
      cases x with
      | finite negative significand exponent => exact ⟨_, rfl⟩
      | infinite negative => rfl
      | nan => rfl
    | text s =>
      have hi : isInteger (some (.text s)) = (Text.integer? s).isSome := rfl
      simp only [List.find?_cons, hi]
      cases Text.integer? s with
      | none => rfl
      | some n => exact ⟨n, rfl⟩
    | _ => rfl

theorem position (fields : Fields) :
    Reads [fields.get? "line", fields.get? "column"] (Position.decode fields) :=
  (coordinate fields "line").bind fun _ => (coordinate fields "column").bind fun _ => pure _

/-- An infinite number before any other value that is no integer is what makes a reading fault. -/
theorem run_eq (h : Reads vs x) :
    if (vs.find? fun v => !isInteger v).any isInfinite then x.run = .error .infinitePosition
    else ∃ a, x.run = .ok a := by
  unfold Reads at h
  cases hv : vs.find? fun v => !isInteger v with
  | none =>
    rw [hv] at h
    obtain ⟨a, ha⟩ := h
    exact ⟨some a, ha⟩
  | some v =>
    rw [hv] at h
    by_cases hi : isInfinite v
    · simpa [hi] using h
    · rw [Option.any_some, if_neg hi]
      exact ⟨none, by simpa [hi] using h⟩

end Reads

theorem read_table (given : Fields) :
    read (.table given) = match given.get? "start" with
      | some (.table (start : Fields)) => OptionT.run do
        let first ← Position.decode start
        let last ← Position.decode
          (match Fields.getD given "end" with | .table stop => stop | _ => start)
        return ⟨first, last⟩
      | _ => .ok none := by
  have hl : Named.get? [("loc", Value.table given)] "loc" = some (.table given) := rfl
  rw [read, Location.decode, Fields.getD]
  simp only [hl]
  cases given.get? "start" with
  | none => rfl
  | some v =>
    cases v with
    | table start =>
      cases given.get? "end" with
      | none => rfl
      | some w => cases w <;> rfl
    | _ => rfl

theorem coordinates_table (given : Fields) :
    coordinates (.table given) = match Fields.getD given "start" with
      | .table (start : Fields) =>
        let stop : Fields := match Fields.getD given "end" with | .table stop => stop | _ => start
        [start.get? "line", start.get? "column", stop.get? "line", stop.get? "column"]
      | _ => [] := rfl

/-- A location without an object for its start counts as missing; any other is read. -/
theorem reads_coordinates (loc : Value) :
    (coordinates loc = [] ∧ read loc = .ok none) ∨
      ∃ x : OptionT (Except DecodeError) Location,
        read loc = x.run ∧ Reads (coordinates loc) x := by
  cases loc with
  | table given =>
    rw [read_table, coordinates_table]
    cases hs : Named.get? given "start" with
    | none => exact .inl ⟨by simp [Fields.getD, hs], rfl⟩
    | some v =>
      have hd : Fields.getD given "start" = v := by simp [Fields.getD, hs]
      rw [hd]
      cases v with
      | table start =>
        refine .inr ⟨_, rfl, ?_⟩
        exact (Reads.position start).bind fun _ => (Reads.position _).bind fun _ => .pure _
      | _ => exact .inl ⟨rfl, rfl⟩
  | _ => exact .inl ⟨rfl, rfl⟩

/-- The reading of a location faults exactly when it overflows. -/
theorem read_eq (loc : Value) :
    if overflows loc then read loc = .error .infinitePosition else ∃ l, read loc = .ok l := by
  rcases reads_coordinates loc with ⟨hc, hr⟩ | ⟨x, hr, hx⟩
  · rw [overflows, hc]
    exact ⟨none, hr⟩
  · rw [hr]
    exact hx.run_eq

end Location

section Place

variable {document : Value} {place : List Turn}

/-- A location that does not overflow is all in which two trees differ. -/
theorem decode_putLoc_of_not_overflows (h : document.hasPlace place .node)
    (ho : Location.overflows loc = false) :
    ∃ l, Location.read loc = .ok l ∧ Node.decode (document.putLoc (some loc) place) =
      Site.putLoc l place .node <$> Node.decode (document.putLoc none place) := by
  have hr := Relocated.putLoc loc place .node document h
  have hl := Location.read_eq loc
  rw [ho] at hl
  obtain ⟨l, hl⟩ := hl
  rw [hl] at hr
  exact ⟨l, hl, hr⟩

/-- With a location that overflows a document does not load. -/
theorem decode_putLoc_of_overflows (h : document.hasPlace place .node)
    (ho : Location.overflows loc) :
    ∃ e, Node.decode (document.putLoc (some loc) place) = .error e ∧
      (e = .infinitePosition ∨ Node.decode (document.putLoc none place) = .error e) := by
  have hr := Relocated.putLoc loc place .node document h
  have hl := Location.read_eq loc
  rw [if_pos ho] at hl
  rw [hl] at hr
  rcases hr with he | ⟨e, he, he'⟩
  · exact ⟨_, he, .inl rfl⟩
  · exact ⟨e, he, .inr he'⟩

/-- A location at any place where the reader looks for one, beside the same document without it.
Unless it overflows, both load or both do not, for the same reason, and the trees differ in that
location alone. With one that overflows the document does not load. -/
theorem decode_putLoc (h : document.hasPlace place .node) (loc : Value) :
    ((∃ tree, Node.decode (document.putLoc (some loc) place) = .ok tree) ↔
      (∃ tree, Node.decode (document.putLoc none place) = .ok tree) ∧
        Location.overflows loc = false) ∧
    (Location.overflows loc = false → ∃ l, Location.read loc = .ok l ∧
      Node.decode (document.putLoc (some loc) place) =
        Site.putLoc l place .node <$> Node.decode (document.putLoc none place)) ∧
    (Location.overflows loc → ∃ e, Node.decode (document.putLoc (some loc) place) = .error e ∧
      (e = .infinitePosition ∨ Node.decode (document.putLoc none place) = .error e)) := by
  refine ⟨⟨?_, ?_⟩, decode_putLoc_of_not_overflows h, decode_putLoc_of_overflows h⟩
  · rintro ⟨tree, ht⟩
    cases ho : Location.overflows loc with
    | false =>
      obtain ⟨l, -, he⟩ := decode_putLoc_of_not_overflows h ho
      rw [he] at ht
      cases hd : Node.decode (document.putLoc none place) with
      | ok tree' => exact ⟨⟨tree', rfl⟩, rfl⟩
      | error e =>
        rw [hd] at ht
        cases ht
    | true =>
      obtain ⟨e, he, -⟩ := decode_putLoc_of_overflows h ho
      rw [he] at ht
      cases ht
  · rintro ⟨⟨tree, ht⟩, ho⟩
    obtain ⟨l, -, he⟩ := decode_putLoc_of_not_overflows h ho
    rw [he, ht]
    exact ⟨_, rfl⟩

end Place

/-- A document of an attribute, with a place in its value. -/
def attrDocument : Value :=
  .table [("type", .text "AttrNode"), ("name", .text "class"),
    ("value", .table [("type", .text "TextNode"), ("chars", .text "main")])]

/-- A location of one point. -/
def pointLocation (line column : Value) : Value :=
  .table [("start", .table [("line", line), ("column", column)])]

theorem decode_attrDocument : Node.decode (attrDocument.putLoc none [.value]) =
    .ok (.attr (.text "class") (.text (.text "main") none) none) := by
  simp [Node.decode, attrDocument, Value.putLoc, Value.edit, Turn.edit, Turn.field, Turn.within,
    Turn.index?, Named.put, Named.set, Decode.node, Decode.object, Decode.required, Decode.require,
    Location.decode, Kind.ofValue?, Kind.ofName?, Kind.all, Kind.name, Fields.getD, Named.get?,
    List.lookup_cons, bind, Except.bind, pure, Except.pure]

theorem decode_putLoc_attrDocument :
    Node.decode (attrDocument.putLoc (some (pointLocation (.int 1) (.text " 7 "))) [.value]) =
      .ok (.attr (.text "class") (.text (.text "main") (some ⟨⟨1, 7⟩, ⟨1, 7⟩⟩)) none) := by
  have hp : attrDocument.hasPlace [.value] .node := rfl
  have ho : Location.overflows (pointLocation (.int 1) (.text " 7 ")) = false := rfl
  obtain ⟨l, hl, hd⟩ := (decode_putLoc hp (pointLocation (.int 1) (.text " 7 "))).2.1 ho
  have hr : Location.read (pointLocation (.int 1) (.text " 7 ")) =
    .ok (some ⟨⟨1, 7⟩, ⟨1, 7⟩⟩) := rfl
  cases hr.symm.trans hl
  rw [hd, decode_attrDocument]
  rfl

/-- The document of a literal with an infinite line. -/
def infiniteDocument : Value :=
  .table [("type", .text "NullLiteral"), ("loc", pointLocation (.float (.infinite false)) (.int 0))]

/-- A malformed location that does not count as missing. -/
theorem decode_infiniteDocument :
    Node.decode (infiniteDocument.putLoc none []) = .ok (.null none) ∧
      Node.decode infiniteDocument = .error .infinitePosition := by
  constructor
  · change Decode.node (.table [("type", .text "NullLiteral")]) = _
    rw [Decode.node, Decode.object]
    rfl
  · rw [Node.decode, infiniteDocument, Decode.node, Decode.object]
    rfl

end TemplateLint
