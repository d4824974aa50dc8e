import TemplateLint.Files.World
import TemplateLint.Value.Named

/-!
The contents of the files of a closed world. Main statements: opening a log file makes it if it is
missing and leaves all files as they are otherwise, and appending to it changes no other file.
-/

namespace TemplateLint

theorem Path.foldParents_plain (parts : List String) :
    ∀ part ∈ foldParents parts, part ≠ ".." ∧ part ≠ "." := by
  have hfold : ∀ (done rest : List String), (∀ part ∈ done, part ≠ ".." ∧ part ≠ ".") →
      ∀ part ∈ rest.foldl (fun done part => if part = ".." then done.dropLast
        else if part = "." then done else done ++ [part]) done, part ≠ ".." ∧ part ≠ "." := by
    intro done rest
    induction rest generalizing done with
    | nil => exact id
    | cons next rest ih =>
      intro hd
      rw [List.foldl_cons]
      apply ih
      split
      · exact fun part hp => hd part (List.dropLast_subset done hp)
      · rename_i hparent
        split
        · exact hd
        · rename_i hself
          intro part hp
          rcases List.mem_append.mp hp with hp | hp
          · exact hd part hp
          · cases List.mem_singleton.mp hp
            exact ⟨hparent, hself⟩
  exact hfold [] parts (List.forall_mem_nil _)

namespace World

variable {w w' : World} {place other parts : List String} {p : Path} {f : File}

/-- The bytes of the file at a place. -/
def content? (w : World) (place : List String) : Option ByteArray :=
  match w.file? place with
  | some (.content bytes) => some bytes
  | _ => none

theorem file?_setFile (w : World) (hp : place ≠ []) (f : File) (other : List String) :
    (w.setFile place f).file? other = if other = place then some f else w.file? other := by
  by_cases ho : other = place
  · subst ho
    simp [file?, setFile, hp]
  · have hb : (other == place) = false := beq_false_of_ne ho
    rw [if_neg ho, file?, file?, setFile, List.lookup_cons, hb, Named.lookup_filter_ne, if_neg ho]

theorem content?_eq_some {bytes : ByteArray} :
    w.content? place = some bytes ↔ w.file? place = some (.content bytes) := by
  unfold content?
  split <;> simp_all

theorem ne_nil_of_content? {bytes : ByteArray} (h : w.content? place = some bytes) :
    place ≠ [] := by
  rintro rfl
  cases h

theorem content?_setFile (w : World) (hp : place ≠ []) (bytes : ByteArray) (other : List String) :
    (w.setFile place (.content bytes)).content? other =
      if other = place then some bytes else w.content? other := by
  rw [content?, file?_setFile w hp]
  by_cases ho : other = place
  · rw [if_pos ho, if_pos ho]
  · rw [if_neg ho, if_neg ho, content?]

theorem append_of_content {bytes : ByteArray} (h : w.content? (w.logPlace p) = some bytes)
    (s : String) :
    w.append p s = w.setFile (w.logPlace p) (.content (bytes ++ s.toUTF8)) := by
  rw [content?_eq_some] at h
  simp only [append, h]

theorem append_of_no_content (h : w.content? (w.logPlace p) = none) (s : String) :
    w.append p s = w := by
  unfold append
  simp only
  split
  · rename_i bytes hf
    rw [content?_eq_some.mpr hf] at h
    cases h
  · rfl

/-- Appending changes the one file alone, and none when it is missing. -/
theorem content?_append (w : World) (p : Path) (s : String) (place : List String) :
    (w.append p s).content? place = (w.content? place).map fun bytes =>
      bytes ++ if place = w.logPlace p then s.toUTF8 else .empty := by
  cases hc : w.content? (w.logPlace p) with
  | none =>
    rw [append_of_no_content hc]
    by_cases hp : place = w.logPlace p
    · rw [hp, hc, Option.map_none]
    · simp [hp]
  | some bytes =>
    rw [append_of_content hc, content?_setFile w (ne_nil_of_content? hc)]
    by_cases hp : place = w.logPlace p
    · simp [hp, hc]
    · simp [hp]

theorem append_err (w : World) (p : Path) (text err : String) :
    append { w with err } p text = { w.append p text with err } := by
  cases hc : w.content? (w.logPlace p) with
  | none =>
    have hc' : content? { w with err } (logPlace { w with err } p) = none := hc
    rw [append_of_no_content hc, append_of_no_content hc']
  | some bytes =>
    have hc' : content? { w with err } (logPlace { w with err } p) = some bytes := hc
    rw [append_of_content hc, append_of_content hc']
    rfl

/-- A way of plain parts is followed to the place of these parts. -/
theorem file?_of_follow (hp : ∀ part ∈ parts, part ≠ ".." ∧ part ≠ ".")
    (h : w.follow place parts = .ok (other, f)) :
    other = place ++ parts ∧ w.file? other = some f := by
  induction parts generalizing place with
  | nil =>
    unfold follow at h
    split at h
    · cases h
    · rename_i hf
      cases h
      exact ⟨(List.append_nil _).symm, hf⟩
  | cons part rest ih =>
    unfold follow at h
    obtain ⟨hn, hr⟩ := List.forall_mem_cons.mp hp
    split at h
    · cases h
    · cases h
    · rw [if_neg hn.1, if_neg hn.2] at h
      obtain ⟨ho, hf⟩ := ih hr h
      exact ⟨ho.trans (List.append_cons place part rest).symm, hf⟩

/-- What is missing on a plain way that leads to a directory is the last part. -/
theorem follow_concat {last : String} (hp : ∀ part ∈ parts, part ≠ ".." ∧ part ≠ ".")
    (hl : last ≠ ".." ∧ last ≠ ".") (h : w.follow place parts = .ok (other, .directory)) :
    w.follow place (parts ++ [last]) = w.follow (other ++ [last]) [] := by
  induction parts generalizing place with
  | nil =>
    obtain ⟨ho, hd⟩ := file?_of_follow hp h
    rw [List.append_nil] at ho
    subst ho
    simp only [List.nil_append, follow, hd, hl, if_false]
  | cons part rest ih =>
    obtain ⟨hn, hr⟩ := List.forall_mem_cons.mp hp
    rw [List.cons_append]
    unfold follow at h ⊢
    cases hd : w.file? place with
    | none =>
      rw [hd] at h
      cases h
    | some f =>
      cases f with
      | content bytes =>
        rw [hd] at h
        cases h
      | directory =>
        rw [hd] at h
        simp only [hn, if_false] at h ⊢
        exact ih hr h

/-- A log file that was opened was there before, or else it was made and is empty. -/
theorem openLog_eq_ok (h : w.openLog p = .ok w') :
    (w' = w ∧ (w.content? (w.logPlace p)).isSome) ∨
      (w.file? (w.logPlace p) = none ∧ w.logPlace p ≠ [] ∧
        w' = w.setFile (w.logPlace p) (.content .empty)) := by
  unfold openLog at h
  have hplain : ∀ part ∈ w.logPlace p, part ≠ ".." ∧ part ≠ "." := Path.foldParents_plain _
  generalize w.logPlace p = place at h hplain ⊢
  split at h
  · cases h
  simp only at h
  cases hf : w.follow [] place with
  | ok found =>
    obtain ⟨q, f⟩ := found
    obtain ⟨hq, hc⟩ := file?_of_follow hplain hf
    rw [List.nil_append] at hq
    cases f with
    | content bytes =>
      rw [hf] at h
      cases h
      left
      rw [content?, ← hq, hc]
      exact ⟨rfl, rfl⟩
    | directory =>
      rw [hf] at h
      cases h
  | error e =>
    rw [hf] at h
    cases e with
    | missing =>
      simp only at h
      cases hd : w.follow [] place.dropLast with
      | error e =>
        rw [hd] at h
        cases h
      | ok found =>
        obtain ⟨q, f⟩ := found
        rw [hd] at h
        cases f with
        | content bytes => cases h
        | directory =>
          cases h
          right
          rcases List.eq_nil_or_concat place with rfl | ⟨first, last, rfl⟩
          · cases hf
          rw [List.concat_eq_append] at hf hplain ⊢
          rw [List.concat_eq_append, List.dropLast_concat] at hd
          obtain ⟨hfirst, hlast⟩ := List.forall_mem_append.mp hplain
          obtain ⟨hq, -⟩ := file?_of_follow hfirst hd
          rw [List.nil_append] at hq
          rw [follow_concat hfirst (hlast last List.mem_cons_self) hd, hq, follow] at hf
          refine ⟨?_, by simp, rfl⟩
          split at hf
          · assumption
          · cases hf
    | _ => cases h

theorem host_openLog (w : World) (p : Path) :
    host.openLog p w = match w.openLog p with
      | .ok w' => (.ok (), w')
      | .error e => (.error e, w) := by
  have hget : host.openLog p w = (match w.openLog p with
      | .ok w' => do set w'; return .ok ()
      | .error e => return .error e : StateM World (Except FileFault Unit)) w := rfl
  rw [hget]
  cases w.openLog p <;> rfl

/-- From one world to another every file keeps its bytes, and may have more of them at its end. -/
def Grows (w w' : World) : Prop :=
  ∀ place bytes, w.content? place = some bytes → ∃ more, w'.content? place = some (bytes ++ more)

theorem Grows.refl (w : World) : w.Grows w :=
  fun _ _ h => ⟨.empty, by rw [ByteArray.append_empty, h]⟩

theorem Grows.trans {w'' : World} (h : w.Grows w') (h' : w'.Grows w'') : w.Grows w'' := by
  intro place bytes hb
  obtain ⟨more, hm⟩ := h place bytes hb
  obtain ⟨more', hm'⟩ := h' place _ hm
  exact ⟨more ++ more', by rw [hm', ByteArray.append_assoc]⟩

theorem Grows.isSome (h : w.Grows w') (hc : (w.content? place).isSome) :
    (w'.content? place).isSome := by
  obtain ⟨bytes, hb⟩ := Option.isSome_iff_exists.mp hc
  obtain ⟨more, hm⟩ := h place bytes hb
  rw [hm]
  rfl

end World

end TemplateLint
