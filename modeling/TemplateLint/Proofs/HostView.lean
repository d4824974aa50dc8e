import TemplateLint.Files.World
import TemplateLint.Lint.Config
import TemplateLint.Lint.Linter
import TemplateLint.Lint.Template
import TemplateLint.Log.Logger

/-!
What a run sees of the files of its host, and what it is seen to write. Reading, logging to the
console and asking for the time are not seen.
-/

namespace TemplateLint

/-- The files that can be read. -/
structure Disk where
  read : Path → Except FileFault ByteArray
  isFile : Path → Bool

/-- What shows of the states of a system: its files, and the text that was written to the output. -/
structure View (σ : Type) where
  disk : σ → Disk
  out : σ → String

variable {σ α β : Type} {view : View σ} {d : Disk} {host : Host (StateM σ)} {path : Path}

/-- From one state to another the files stay, and a text is written to the output. -/
def View.Writes (view : View σ) (text : String) (s s' : σ) : Prop :=
  view.disk s' = view.disk s ∧ view.out s' = view.out s ++ text

/-- A host gives what the files hold, and nothing but writing to the output shows. -/
structure Host.Shows (host : Host (StateM σ)) (view : View σ) : Prop where
  read : ∀ p s, (host.read p s).1 = (view.disk s).read p ∧ view.Writes "" s (host.read p s).2
  isFile : ∀ p s, (host.isFile p s).1 = (view.disk s).isFile p ∧ view.Writes "" s (host.isFile p s).2
  writeOut : ∀ text s, view.Writes text s (host.writeOut text s).2
  writeErr : ∀ text s, view.Writes "" s (host.writeErr text s).2
  stamp : ∀ s, view.Writes "" s (host.stamp s).2
  wording : ∀ s, view.Writes "" s (host.wording s).2

theorem View.Writes.refl (s : σ) : view.Writes "" s s :=
  ⟨rfl, String.append_empty.symm⟩

theorem View.Writes.trans {s s' s'' : σ} {t u : String} (h : view.Writes t s s')
    (h' : view.Writes u s' s'') : view.Writes (t ++ u) s s'' := by
  refine ⟨h'.1.trans h.1, ?_⟩
  rw [h'.2, h.2, String.append_assoc]

/-- With the given files a step gives a value, and writes a text to the output. -/
def Does (view : View σ) (d : Disk) (x : StateM σ α) (a : α) (text : String) : Prop :=
  ∀ s, view.disk s = d → (x s).1 = a ∧ view.Writes text s (x s).2

namespace Does

variable {x : StateM σ α} {f : α → StateM σ β} {a : α} {b : β} {t u : String}

theorem pure (a : α) : Does view d (Pure.pure a) a "" :=
  fun s _ => ⟨rfl, View.Writes.refl s⟩

theorem bind (h : Does view d x a t) (h' : Does view d (f a) b u) :
    Does view d (x >>= f) b (t ++ u) := by
  intro s hs
  obtain ⟨ha, hw⟩ := h s hs
  obtain ⟨hb, hw'⟩ := h' (x s).2 (hw.1.trans hs)
  have hx : (x >>= f) s = f a (x s).2 := by
    rw [← ha]
    rfl
  rw [hx]
  exact ⟨hb, hw.trans hw'⟩

/-- What follows a step that does not show, and does not depend on what the step gives. -/
theorem bind_any (h : ∀ s, view.Writes "" s (x s).2) (h' : ∀ a, Does view d (f a) b t) :
    Does view d (x >>= f) b t := by
  intro s hs
  obtain ⟨hb, hw⟩ := h' (x s).1 (x s).2 ((h s).1.trans hs)
  refine ⟨hb, ?_⟩
  have hw' := (h s).trans hw
  rwa [String.empty_append] at hw'

theorem quietly (h : Does view d x a "") (h' : Does view d (f a) b t) :
    Does view d (x >>= f) b t := by
  have hb := h.bind h'
  rwa [String.empty_append] at hb

theorem forM {γ : Type} {f : γ → StateM σ PUnit} {g : γ → String} {xs : List γ}
    (h : ∀ c ∈ xs, Does view d (f c) ⟨⟩ (g c)) :
    Does view d (xs.forM f) ⟨⟩ (String.join (xs.map g)) := by
  induction xs with
  | nil => exact Does.pure ()
  | cons c rest ih =>
    rw [List.map_cons, String.join_cons]
    exact (h c List.mem_cons_self).bind (ih fun c hc => h c (List.mem_cons_of_mem _ hc))

theorem forM_quietly {γ : Type} {f : γ → StateM σ PUnit} {xs : List γ}
    (h : ∀ c ∈ xs, Does view d (f c) ⟨⟩ "") : Does view d (xs.forM f) ⟨⟩ "" := by
  induction xs with
  | nil => exact Does.pure ()
  | cons c rest ih =>
    exact (h c List.mem_cons_self).quietly (ih fun c hc => h c (List.mem_cons_of_mem _ hc))

end Does

theorem Text.unifyLineEnds_eq_self {cs : List Char} (h : '\r' ∉ cs) : unifyLineEnds cs = cs := by
  induction cs with
  | nil => rfl
  | cons c rest ih =>
    have hc : c ≠ '\r' := fun hc => h (hc ▸ List.mem_cons_self)
    have hr := ih fun hm => h (List.mem_cons_of_mem c hm)
    rw [unifyLineEnds, if_neg hc, hr]
    rintro rest rfl
    exact (hc rfl).elim

/-- A text without carriage returns is read as it was written. -/
theorem decodeText_toUTF8 {s : String} (h : '\r' ∉ s.toList) : decodeText s.toUTF8 = some s := by
  have hs : String.fromUTF8? s.toUTF8 = some s := by
    simp [String.fromUTF8?, String.fromUTF8, s.isValidUTF8]
  rw [decodeText, hs, Option.map_some, Text.unifyLineEnds_eq_self h, String.ofList_toList]

namespace Disk

/-- The text of a file: it can be read, and it is in UTF-8. -/
def readText (d : Disk) (p : Path) : Except ReadFault String :=
  match d.read p with
  | .error e => .error (.file p e)
  | .ok bytes =>
    match decodeText bytes with
    | none => .error (.notUtf8 bytes)
    | some s => .ok s

theorem readText_of_read {p : Path} {s : String} (hr : d.read p = .ok s.toUTF8)
    (h : '\r' ∉ s.toList) : d.readText p = .ok s := by
  simp only [readText, hr, decodeText_toUTF8 h]

/-- The tree of a template file: its text is a JSON document of a template. -/
def readTemplate (d : Disk) (p : Path) : Except TemplateFault Node :=
  ((d.readText p).mapError .read).bind (Template.ofText p)

/-- The text that a template was made from: that of the given file, or of the file beside the
template, if there is one. -/
def readSource (d : Disk) (p : Path) : Option Path → Except ReadFault String
  | some given => d.readText given
  | none =>
    if p.extension = ".json" ∧ d.isFile p.withoutExtension then d.readText p.withoutExtension
    else .ok ""

/-- The configuration in a file: its text is a TOML document with a table of rules, all known. -/
def readConfig (d : Disk) (p : Path) : Except ConfigFault LintConfig :=
  (LintConfig.parse p (d.readText p)).bind fun data =>
    (LintConfig.ofFields data (some Linter.ruleNames) (some p)).mapError .config

end Disk

namespace Host.Shows

theorem does_read (h : host.Shows view) (p : Path) : Does view d (host.read p) (d.read p) "" := by
  rintro s rfl
  exact h.read p s

theorem does_isFile (h : host.Shows view) (p : Path) :
    Does view d (host.isFile p) (d.isFile p) "" := by
  rintro s rfl
  exact h.isFile p s

theorem does_writeOut (h : host.Shows view) (text : String) :
    Does view d (host.writeOut text) () text :=
  fun s _ => ⟨rfl, h.writeOut text s⟩

theorem does_writeErr (h : host.Shows view) (text : String) :
    Does view d (host.writeErr text) () "" :=
  fun s _ => ⟨rfl, h.writeErr text s⟩

theorem does_readText (h : host.Shows view) (p : Path) :
    Does view d (host.readText p) (d.readText p) "" := by
  refine (h.does_read p).quietly ?_
  rw [Disk.readText]
  cases d.read p with
  | error e => exact .pure _
  | ok bytes =>
    cases hb : decodeText bytes with
    | none =>
      simp only [hb]
      exact .pure _
    | some s =>
      simp only [hb]
      exact .pure _

theorem does_load (h : host.Shows view) (p : Path) :
    Does view d (Template.load host p) (d.readTemplate p) "" :=
  (h.does_readText p).quietly (.pure _)

theorem does_source (h : host.Shows view) (p : Path) (given : Option Path) :
    Does view d (Template.source host p given) (d.readSource p given) "" := by
  cases given with
  | some q => exact h.does_readText q
  | none =>
    rw [Template.source, Disk.readSource]
    by_cases he : p.extension = ".json"
    · simp only [he, if_true, true_and]
      refine (h.does_isFile p.withoutExtension).quietly ?_
      by_cases hf : d.isFile p.withoutExtension
      · simp only [hf, if_true]
        exact (h.does_readText _).quietly (.pure _)
      · simp only [hf]
        exact .pure _
    · simp only [he, if_false, false_and]
      exact .pure _

/-- What loading a configuration logs does not matter here. -/
theorem does_loadConfig (h : host.Shows view) (p : Path) :
    ∃ records, Does view d (LintConfig.load host p (some Linter.ruleNames))
      (d.readConfig p, records) "" := by
  rw [Disk.readConfig]
  cases hp : LintConfig.parse p (d.readText p) with
  | error e =>
    refine ⟨[], (h.does_readText p).quietly ?_⟩
    simp only [hp]
    exact .pure _
  | ok data =>
    refine ⟨[LintConfig.loadedRecord p], (h.does_readText p).quietly ?_⟩
    simp only [hp]
    exact .pure _

end Host.Shows

namespace Log.Logger

variable {l : Logger}

/-- What is sent goes to an output of the logger, or to the current error stream. -/
theorem sink_of_mem_deliveries {stream : Nat} {occasion : Occasion} {text : String} {r : Record}
    {sink : Sink} (h : (sink, text) ∈ l.deliveries stream occasion r) :
    sink = .console stream ∨ ∃ o ∈ l.outputs, sink = o.sink := by
  unfold Logger.deliveries at h
  have outputs : ∀ o ∈ (if covers r.channel then l.outputs else []), o ∈ l.outputs := by
    intro o ho
    split at ho
    · exact ho
    · cases ho
  generalize (if covers r.channel then l.outputs else []) = covering at h outputs
  simp only at h
  by_cases hlow : r.level ≤ 0 ∨ r.level < (if covers r.channel then l.effectiveLevel else warning)
  · rw [if_pos hlow] at h
    cases h
  · rw [if_neg hlow] at h
    by_cases he : covering.isEmpty
    · rw [if_pos he] at h
      split at h
      · cases List.mem_singleton.mp h
        exact .inl rfl
      · cases h
    · rw [if_neg he] at h
      obtain ⟨o, ho, hw⟩ := List.mem_map.mp h
      unfold Output.delivery at hw
      split at hw
      · cases hw
        exact .inr ⟨o, outputs o (List.mem_filter.mp ho).1, rfl⟩
      · cases hw
        exact .inl rfl

/-- The logger writes to error streams only. -/
def ConsoleOnly (l : Logger) : Prop :=
  ∀ o ∈ l.outputs, ∃ stream, o.sink = .console stream

theorem ConsoleOnly.deliveries (hl : l.ConsoleOnly) {stream : Nat} {occasion : Occasion}
    {text : String} {r : Record} {sink : Sink} (h : (sink, text) ∈ l.deliveries stream occasion r) :
    ∃ stream, sink = .console stream := by
  rcases sink_of_mem_deliveries h with rfl | ⟨o, ho, rfl⟩
  · exact ⟨stream, rfl⟩
  · exact hl o ho

theorem ConsoleOnly.does_log (hl : l.ConsoleOnly) (h : host.Shows view) (r : Record) :
    Does view d (l.log host r) () "" := by
  refine .bind_any h.stamp fun stamp => .forM_quietly ?_
  rintro ⟨sink, text⟩ hm
  obtain ⟨stream, rfl⟩ := hl.deliveries hm
  exact h.does_writeErr text

theorem does_configure_console (host : Host (StateM σ)) (s : Settings) (hf : s.logFile = none)
    (hs : s.format = defaultFormat) :
    configure host s 0 = pure (.ok (), ⟨s.level, [console s 0]⟩) := by
  have hh : holdsField (effectiveFormat defaultFormat).toList := by decide +kernel
  simp [configure, reconfigure, setLevel, clearOutputs, addOutput, hf, hs, hh]

end Log.Logger

namespace World

/-- A closed world shows its files and its output. -/
def visible : View World where
  disk w := ⟨w.read, w.isFile⟩
  out w := w.out

variable {w w' : World}

theorem follow_congr (hf : w.files = w'.files) (place parts : List String) :
    w.follow place parts = w'.follow place parts := by
  induction parts generalizing place with
  | nil => simp only [follow, file?, hf]
  | cons part rest ih => simp only [follow, file?, hf, ih]

theorem find_congr (hf : w.files = w'.files) (hd : w.workingDirectory = w'.workingDirectory)
    (p : Path) : w.find p = w'.find p := by
  simp only [World.find, start, hd, follow_congr hf]

theorem disk_congr (hf : w.files = w'.files) (hd : w.workingDirectory = w'.workingDirectory) :
    visible.disk w = visible.disk w' := by
  have find : w.find = w'.find := funext (find_congr hf hd)
  simp only [visible, Disk.mk.injEq]
  constructor
  · funext p
    simp only [World.read, find]
  · funext p
    simp only [World.isFile, find]

theorem host_shows : World.host.Shows visible := by
  constructor
  · exact fun p s => ⟨rfl, .refl s⟩
  · exact fun p s => ⟨rfl, .refl s⟩
  · exact fun text s => ⟨disk_congr rfl rfl, rfl⟩
  · exact fun text s => ⟨disk_congr rfl rfl, String.append_empty.symm⟩
  · exact fun s => .refl s
  · exact fun s => .refl s

end World

end TemplateLint
