import TemplateLint.Proofs.CoupledRuns
import TemplateLint.Proofs.FileContents
import TemplateLint.Proofs.HostView

/-!
Two worlds that differ in the text of one file. Main statements: each step on the one does the same
on the other, except for reading the file, and the worlds still differ in no more after it.
-/

namespace TemplateLint

open Log (Logger Record)

theorem isSome_decodeText {bytes : ByteArray} : (decodeText bytes).isSome ↔ bytes.IsValidUTF8 := by
  rw [decodeText, Option.isSome_map, String.fromUTF8?]
  split <;> simp_all

namespace World

variable {w w' : World} {place here parts : List String} {p : Path}

theorem find_eq_ok_iff {found : List String × File} :
    w.find p = .ok found ↔ badName p = false ∧ w.follow (w.start p) p.parts = .ok found := by
  unfold find
  cases badName p <;> simp

/-- Where a way leads once a file has been given contents, it led before. -/
theorem follow_of_setFile {q : List String} {bytes : ByteArray} {f f' : File} (hq : q ≠ [])
    (hf : w.file? place = some f)
    (h : (w.setFile q (.content bytes)).follow here parts = .ok (place, f')) :
    w.follow here parts = .ok (place, f) := by
  induction parts generalizing here with
  | nil =>
    unfold follow at h
    split at h
    · cases h
    · cases h
      simp only [follow, hf]
  | cons part rest ih =>
    unfold follow at h ⊢
    rw [file?_setFile w hq] at h
    by_cases ha : here = q
    · rw [if_pos ha] at h
      cases h
    · rw [if_neg ha] at h
      cases hd : w.file? here with
      | none =>
        rw [hd] at h
        cases h
      | some d =>
        rw [hd] at h
        cases d with
        | content bytes => cases h
        | directory => exact ih h

/-- The file at a place holds a text. -/
def HoldsText (w : World) (place : List String) : Prop :=
  ∃ bytes, w.file? place = some (.content bytes) ∧ (decodeText bytes).isSome

/-- The worlds differ in no more than the text at a place, which none of the spared paths leads
to. -/
structure Twins (place : List String) (spared : List Path) (w w' : World) : Prop where
  workingDirectory : w'.workingDirectory = w.workingDirectory
  out : w'.out = w.out
  err : w'.err = w.err
  stamp : w'.stamp = w.stamp
  wording : w'.wording = w.wording
  other : ∀ q, q ≠ place → w'.file? q = w.file? q
  text : w.HoldsText place
  text' : w'.HoldsText place
  spared : ∀ p ∈ spared, ∀ f, w.find p ≠ .ok (place, f)

/-- Two ways lead to the same, or else both to a text at the place. -/
inductive SameEnd (place : List String) : List String × File → List String × File → Prop
  | same (found : List String × File) : SameEnd place found found
  | texts {bytes bytes' : ByteArray} (h : (decodeText bytes).isSome)
      (h' : (decodeText bytes').isSome) :
      SameEnd place (place, .content bytes) (place, .content bytes')

/-- The two bytes are the same, or else both are the bytes of a text. -/
def SameText (bytes bytes' : ByteArray) : Prop :=
  bytes = bytes' ∨ (decodeText bytes).isSome ∧ (decodeText bytes').isSome

namespace Twins

variable {spared : List Path}

theorem ne_nil (h : Twins place spared w w') : place ≠ [] := by
  obtain ⟨bytes, hb, -⟩ := h.text
  exact ne_nil_of_content? (content?_eq_some.mpr hb)

theorem follow (h : Twins place spared w w') (here parts : List String) :
    Alike (SameEnd place) (w.follow here parts) (w'.follow here parts) := by
  obtain ⟨bytes, hb, ht⟩ := h.text
  obtain ⟨bytes', hb', ht'⟩ := h.text'
  induction parts generalizing here with
  | nil =>
    unfold World.follow
    by_cases hh : here = place
    · subst hh
      rw [hb, hb']
      exact .ok (.texts ht ht')
    · rw [h.other here hh]
      cases w.file? here with
      | none => exact .error _
      | some f => exact .ok (.same _)
  | cons part rest ih =>
    unfold World.follow
    by_cases hh : here = place
    · subst hh
      rw [hb, hb']
      exact .error _
    · rw [h.other here hh]
      cases w.file? here with
      | none => exact .error _
      | some f =>
        cases f with
        | content bytes => exact .error _
        | directory => exact ih _

theorem start (h : Twins place spared w w') (p : Path) : w'.start p = w.start p := by
  rw [World.start, World.start, h.workingDirectory]

theorem logPlace (h : Twins place spared w w') (p : Path) : w'.logPlace p = w.logPlace p := by
  rw [World.logPlace, World.logPlace, h.start]

theorem find (h : Twins place spared w w') (p : Path) :
    Alike (SameEnd place) (w.find p) (w'.find p) := by
  unfold World.find
  rw [h.start]
  split
  · exact .error _
  · exact h.follow _ _

theorem content?_eq (h : Twins place spared w w') {q : List String} (hq : q ≠ place) :
    w'.content? q = w.content? q := by
  rw [content?, content?, h.other q hq]

theorem isFile (h : Twins place spared w w') (p : Path) : w'.isFile p = w.isFile p := by
  have hfind := h.find p
  unfold World.isFile
  generalize w.find p = a at hfind ⊢
  generalize w'.find p = b at hfind ⊢
  cases hfind with
  | error e => rfl
  | ok hend => cases hend <;> rfl

theorem read (h : Twins place spared w w') (p : Path) :
    Alike SameText (w.read p) (w'.read p) := by
  have hfind := h.find p
  unfold World.read
  generalize w.find p = a at hfind ⊢
  generalize w'.find p = b at hfind ⊢
  cases hfind with
  | error e => exact .error e
  | @ok a b hend =>
    cases hend with
    | same _ =>
      obtain ⟨q, f⟩ := a
      cases f with
      | content bytes => exact .ok (.inl rfl)
      | directory => exact .error _
    | texts ht ht' => exact .ok (.inr ⟨ht, ht'⟩)

theorem read_of_spared (h : Twins place spared w w') (hp : p ∈ spared) : w'.read p = w.read p := by
  have hfind := h.find p
  have hs := h.spared p hp
  unfold World.read
  generalize w.find p = a at hfind hs ⊢
  generalize w'.find p = b at hfind ⊢
  cases hfind with
  | error e => rfl
  | ok hend =>
    cases hend with
    | same found => rfl
    | texts ht ht' => exact (hs _ rfl).elim

theorem writeOut (h : Twins place spared w w') (text : String) :
    Twins place spared { w with out := w.out ++ text } { w' with out := w'.out ++ text } := by
  have hfind (p : Path) : World.find { w with out := w.out ++ text } p = w.find p :=
    find_congr (by rfl) (by rfl) p
  exact { h with
    out := congrArg (· ++ text) h.out
    spared := fun p hp f => hfind p ▸ h.spared p hp f }

theorem writeErr (h : Twins place spared w w') (text : String) :
    Twins place spared { w with err := w.err ++ text } { w' with err := w'.err ++ text } := by
  have hfind (p : Path) : World.find { w with err := w.err ++ text } p = w.find p :=
    find_congr (by rfl) (by rfl) p
  exact { h with
    err := congrArg (· ++ text) h.err
    spared := fun p hp f => hfind p ▸ h.spared p hp f }

/-- Paths are still spared when a file has been given contents. -/
theorem spared_setFile (h : Twins place spared w w') {q : List String} (hq : q ≠ [])
    (bytes : ByteArray) :
    ∀ p ∈ spared, ∀ f, (w.setFile q (.content bytes)).find p ≠ .ok (place, f) := by
  intro p hp f hf
  obtain ⟨old, ho, -⟩ := h.text
  obtain ⟨hn, hfollow⟩ := find_eq_ok_iff.mp hf
  exact h.spared p hp (.content old) (find_eq_ok_iff.mpr ⟨hn, follow_of_setFile hq ho hfollow⟩)

theorem setFile_other (h : Twins place spared w w') {q : List String} (hq : q ≠ [])
    (hn : q ≠ place) (bytes : ByteArray) :
    Twins place spared (w.setFile q (.content bytes)) (w'.setFile q (.content bytes)) where
  workingDirectory := h.workingDirectory
  out := h.out
  err := h.err
  stamp := h.stamp
  wording := h.wording
  other := by
    intro q' hq'
    rw [file?_setFile _ hq, file?_setFile _ hq, h.other q' hq']
  text := by
    rw [HoldsText, file?_setFile _ hq, if_neg hn.symm]
    exact h.text
  text' := by
    rw [HoldsText, file?_setFile _ hq, if_neg hn.symm]
    exact h.text'
  spared := h.spared_setFile hq bytes

theorem setFile_text (h : Twins place spared w w') {bytes bytes' : ByteArray}
    (ht : (decodeText bytes).isSome) (ht' : (decodeText bytes').isSome) :
    Twins place spared (w.setFile place (.content bytes)) (w'.setFile place (.content bytes')) where
  workingDirectory := h.workingDirectory
  out := h.out
  err := h.err
  stamp := h.stamp
  wording := h.wording
  other := by
    intro q hq
    rw [file?_setFile _ h.ne_nil, file?_setFile _ h.ne_nil, if_neg hq, if_neg hq, h.other q hq]
  text := ⟨bytes, by rw [file?_setFile _ h.ne_nil, if_pos rfl], ht⟩
  text' := ⟨bytes', by rw [file?_setFile _ h.ne_nil, if_pos rfl], ht'⟩
  spared := h.spared_setFile h.ne_nil bytes

/-- The place may be that of the log file: a text with another one behind it is a text. -/
theorem append (h : Twins place spared w w') (p : Path) (s : String) :
    Twins place spared (w.append p s) (w'.append p s) := by
  by_cases hp : w.logPlace p = place
  · obtain ⟨bytes, hb, ht⟩ := h.text
    obtain ⟨bytes', hb', ht'⟩ := h.text'
    rw [← hp, ← content?_eq_some] at hb
    rw [← hp, ← h.logPlace, ← content?_eq_some] at hb'
    rw [append_of_content hb, append_of_content hb', h.logPlace, hp]
    rw [isSome_decodeText] at ht ht'
    have hs : s.toUTF8.IsValidUTF8 := s.isValidUTF8
    exact h.setFile_text (isSome_decodeText.mpr (ht.append hs))
      (isSome_decodeText.mpr (ht'.append hs))
  · have hsame : w'.content? (w'.logPlace p) = w.content? (w.logPlace p) := by
      rw [h.logPlace, h.content?_eq hp]
    cases hc : w.content? (w.logPlace p) with
    | none =>
      rw [append_of_no_content hc, append_of_no_content (hsame.trans hc)]
      exact h
    | some bytes =>
      rw [append_of_content hc, append_of_content (hsame.trans hc), h.logPlace]
      exact h.setFile_other (ne_nil_of_content? hc) hp _

theorem setFile_empty (h : Twins place spared w w') {q : List String} (hq : q ≠ []) :
    Twins place spared (w.setFile q (.content .empty)) (w'.setFile q (.content .empty)) := by
  by_cases hp : q = place
  · have hempty : (decodeText .empty).isSome := rfl
    rw [hp]
    exact h.setFile_text hempty hempty
  · exact h.setFile_other hq hp _

theorem openLog (h : Twins place spared w w') (p : Path) :
    Alike (Twins place spared) (w.openLog p) (w'.openLog p) := by
  have hq := h.follow [] (w.logPlace p)
  have hd := h.follow [] (w.logPlace p).dropLast
  have hnil : w.follow [] [] = .ok ([], .directory) := rfl
  unfold World.openLog
  rw [h.logPlace]
  by_cases hb : badName p
  · rw [if_pos hb, if_pos hb]
    exact .error _
  rw [if_neg hb, if_neg hb]
  simp only
  generalize w.logPlace p = q at *
  generalize hqr : w.follow [] q = found at hq ⊢
  generalize w'.follow [] q = found' at hq ⊢
  cases hq with
  | @ok a b hend =>
    cases hend with
    | same _ =>
      obtain ⟨_, f⟩ := a
      cases f with
      | content bytes => exact .ok h
      | directory => exact .error _
    | texts _ _ => exact .ok h
  | error e =>
    cases e with
    | missing =>
      have hn : q ≠ [] := by
        rintro rfl
        rw [hnil] at hqr
        cases hqr
      simp only
      generalize w.follow [] q.dropLast = above at hd ⊢
      generalize w'.follow [] q.dropLast = above' at hd ⊢
      cases hd with
      | error e => exact .error e
      | @ok a b hend =>
        cases hend with
        | texts _ _ => exact .error _
        | same _ =>
          obtain ⟨_, f⟩ := a
          cases f with
          | content bytes => exact .error _
          | directory => exact .ok (h.setFile_empty hn)
    | _ => exact .error _

end Twins

/-- Texts of which one takes the place of the other make worlds that differ in no more. -/
theorem twins_setFile {bytes bytes' : ByteArray} {spared : List Path}
    (hb : w.content? place = some bytes) (ht : (decodeText bytes).isSome)
    (ht' : (decodeText bytes').isSome) (hs : ∀ p ∈ spared, ∀ f, w.find p ≠ .ok (place, f)) :
    Twins place spared w (w.setFile place (.content bytes')) where
  workingDirectory := rfl
  out := rfl
  err := rfl
  stamp := rfl
  wording := rfl
  other := by
    intro q hq
    rw [file?_setFile _ (ne_nil_of_content? hb), if_neg hq]
  text := ⟨bytes, content?_eq_some.mp hb, ht⟩
  text' := ⟨bytes', by rw [file?_setFile _ (ne_nil_of_content? hb), if_pos rfl], ht'⟩
  spared := hs

end World

section Host

open World

variable {place : List String} {spared : List Path} {p : Path}

theorem coupled_writeOut (text : String) :
    Coupled (Twins place spared) Eq (World.host.writeOut text) (World.host.writeOut text) :=
  fun _ _ h => ⟨rfl, h.writeOut text⟩

theorem coupled_writeErr (text : String) :
    Coupled (Twins place spared) Eq (World.host.writeErr text) (World.host.writeErr text) :=
  fun _ _ h => ⟨rfl, h.writeErr text⟩

theorem coupled_wording :
    Coupled (Twins place spared) Eq World.host.wording World.host.wording :=
  fun _ _ h => ⟨h.wording.symm, h⟩

theorem coupled_isFile (p : Path) :
    Coupled (Twins place spared) Eq (World.host.isFile p) (World.host.isFile p) :=
  fun _ _ h => ⟨(h.isFile p).symm, h⟩

/-- A file is a text in both worlds, or else in neither. -/
theorem coupled_readText (p : Path) : Coupled (Twins place spared) (Alike fun _ _ => True)
    (World.host.readText p) (World.host.readText p) := by
  have hread : Coupled (Twins place spared) (Alike SameText) (World.host.read p)
      (World.host.read p) :=
    fun _ _ h => ⟨h.read p, h⟩
  refine hread.bind fun a b hab => ?_
  cases hab with
  | error e => exact .pure (.error _)
  | @ok bytes bytes' hbytes =>
    rcases hbytes with rfl | ⟨ht, ht'⟩
    · simp only
      cases decodeText bytes with
      | none => exact .pure (.error _)
      | some s => exact .pure (.ok trivial)
    · obtain ⟨s, hs⟩ := Option.isSome_iff_exists.mp ht
      obtain ⟨s', hs'⟩ := Option.isSome_iff_exists.mp ht'
      simp only [hs, hs']
      exact .pure (.ok trivial)

theorem coupled_readText_of_spared (hp : p ∈ spared) :
    Coupled (Twins place spared) Eq (World.host.readText p) (World.host.readText p) := by
  have hread : Coupled (Twins place spared) Eq (World.host.read p) (World.host.read p) :=
    fun _ _ h => ⟨(h.read_of_spared hp).symm, h⟩
  refine hread.same_bind fun read => ?_
  cases read with
  | error e => exact .pure rfl
  | ok bytes =>
    simp only
    cases decodeText bytes <;> exact .pure rfl

theorem coupled_readConfig (hp : p ∈ spared) (known : Option (List String)) :
    Coupled (Twins place spared) Eq (LintConfig.load World.host p known)
      (LintConfig.load World.host p known) := by
  refine (coupled_readText_of_spared hp).same_bind fun text => ?_
  cases LintConfig.parse p text <;> exact .pure rfl

theorem coupled_readTemplate (hp : p ∈ spared) :
    Coupled (Twins place spared) Eq (Template.load World.host p) (Template.load World.host p) :=
  (coupled_readText_of_spared hp).same_bind fun _ => .pure rfl

theorem coupled_readSource (p : Path) (given : Option Path) :
    Coupled (Twins place spared) (Alike fun _ _ => True) (Template.source World.host p given)
      (Template.source World.host p given) := by
  cases given with
  | some q => exact coupled_readText q
  | none =>
    rw [Template.source]
    by_cases he : p.extension = ".json"
    · simp only [he, if_true]
      refine (coupled_isFile p.withoutExtension).same_bind fun found => ?_
      cases found with
      | true => exact coupled_readText p.withoutExtension
      | false => exact .pure (.ok trivial)
    · simp only [he, if_false]
      exact .pure (.ok trivial)

theorem coupled_log (logger : Logger) (r : Record) :
    Coupled (Twins place spared) Eq (logger.log World.host r) (logger.log World.host r) := by
  have hstamp : Coupled (Twins place spared) Eq World.host.stamp World.host.stamp :=
    fun _ _ h => ⟨h.stamp.symm, h⟩
  refine hstamp.same_bind fun stamp => .forM ?_ _
  rintro ⟨sink, text⟩
  cases sink with
  | console stream => exact coupled_writeErr text
  | file path => exact fun _ _ h => ⟨rfl, h.append path text⟩

theorem coupled_openLog (p : Path) :
    Coupled (Twins place spared) Eq (World.host.openLog p) (World.host.openLog p) := by
  intro w w' h
  have hlog := h.openLog p
  rw [host_openLog, host_openLog]
  generalize w.openLog p = a at hlog ⊢
  generalize w'.openLog p = b at hlog ⊢
  cases hlog with
  | error e => exact ⟨rfl, h⟩
  | ok h' => exact ⟨rfl, h'⟩

theorem coupled_configure (s : Log.Settings) (stream : Nat) :
    Coupled (Twins place spared) Eq (Logger.configure World.host s stream)
      (Logger.configure World.host s stream) := by
  unfold Logger.configure Logger.reconfigure
  simp only
  split
  · exact .pure rfl
  · cases s.logFile with
    | none => exact .pure rfl
    | some path =>
      refine (coupled_openLog path).same_bind fun opened => ?_
      cases opened <;> exact .pure rfl

end Host

end TemplateLint
