import TemplateLint.Proofs.FileContents
import TemplateLint.Proofs.HostView

/-!
A program that sets its logger up again and again, and logs in between. Main statement: a record
goes once to each output of the latest settings that takes its level, and nowhere else.
-/

namespace TemplateLint.Log

/-- What happens in a program that logs. -/
inductive Action where
  /-- Another error stream becomes the current one. -/
  | redirect (stream : Nat)
  | configure (settings : Settings)
  | log (occasion : Occasion) (record : Record)

/-- A logger, the number of the current error stream, the files, and what each error stream
holds. -/
structure Session where
  logger : Logger := {}
  stream : Nat := 0
  world : World := {}
  errors : Nat → String := fun _ => ""

namespace Settings

/-- The entry of a record, with its line end; none when the format of the settings does not take the
record. -/
def written? (settings : Settings) (o : Occasion) (r : Record) : Option String :=
  ((pieces? (effectiveFormat settings.format).toList).bind (·.write? o r)).map (· ++ "\n")

/-- The logger that the settings give where an error stream is the current one. -/
def logger (settings : Settings) (stream : Nat) : Logger :=
  ⟨settings.level, Logger.console settings stream ::
    settings.logFile.toList.map (Logger.logFile settings)⟩

/-- What is sent for a record that a sink takes: its entry, or else a report to the current error
stream. -/
def sent (settings : Settings) (current : Nat) (o : Occasion) (r : Record) (sink : Sink) :
    Sink × String :=
  (settings.written? o r).elim (.console current, o.report) (sink, ·)

/-- The console takes the level of a record. -/
def ConsoleTakes (settings : Settings) (r : Record) : Prop :=
  settings.level ≤ r.level ∧ settings.consoleLevel ≤ r.level

/-- A log file takes the level of a record. -/
def FileTakes (settings : Settings) (r : Record) : Prop :=
  settings.level ≤ r.level ∧ settings.fileLevel ≤ r.level

instance (settings : Settings) (r : Record) : Decidable (settings.ConsoleTakes r) :=
  inferInstanceAs (Decidable (_ ∧ _))

instance (settings : Settings) (r : Record) : Decidable (settings.FileTakes r) :=
  inferInstanceAs (Decidable (_ ∧ _))

variable {settings : Settings} {o : Occasion} {r : Record}

theorem written?_default (h : settings.format = defaultFormat) (o : Occasion) (r : Record) :
    settings.written? o r = some
      (o.stamp ++ " - " ++ r.channel ++ " - " ++ levelName r.level ++ " - " ++ r.message ++ "\n") := by
  have hp : pieces? (effectiveFormat defaultFormat).toList =
      some [.field ⟨some "asctime", [], 0, none, .plain, false⟩, .literal ' ', .literal '-',
        .literal ' ', .field ⟨some "name", [], 0, none, .plain, false⟩, .literal ' ', .literal '-',
        .literal ' ', .field ⟨some "levelname", [], 0, none, .plain, false⟩, .literal ' ',
        .literal '-', .literal ' ', .field ⟨some "message", [], 0, none, .plain, false⟩] := by
    decide +kernel
  have hd : " - " = " " ++ ("-" ++ " ") := by decide
  rw [written?, h, hp]
  simp [Layout.write?, Piece.write?, Field.show?, originNames, Record.show?, Field.write?, Field.cut,
    Field.align, Field.hasFlag, Shown.plain, String.append_assoc]
  simp only [hd, String.append_assoc]

theorem delivery_of_layout {output : Output}
    (h : output.layout = pieces? (effectiveFormat settings.format).toList) (current : Nat)
    (o : Occasion) (r : Record) :
    output.delivery current o r = settings.sent current o r output.sink := by
  rw [Output.delivery, sent, written?, h]
  cases (pieces? (effectiveFormat settings.format).toList).bind (·.write? o r) <;> rfl

/-- Under a level of its own the logger sends a record to those outputs that take its level. -/
theorem deliveries_logger (hl : 0 < settings.level) (hr : Logger.covers r.channel)
    (stream current : Nat) :
    (settings.logger stream).deliveries current o r =
      (if settings.ConsoleTakes r then [settings.sent current o r (.console stream)] else []) ++
      settings.logFile.toList.flatMap fun p =>
        if settings.FileTakes r then [settings.sent current o r (.file p)] else [] := by
  have he : (settings.logger stream).effectiveLevel = settings.level := if_neg (by
    show settings.level ≠ 0
    omega)
  have hconsole : (Logger.console settings stream).delivery current o r =
      settings.sent current o r (.console stream) := delivery_of_layout rfl current o r
  have hfile (p : Path) : (Logger.logFile settings p).delivery current o r =
      settings.sent current o r (.file p) := delivery_of_layout rfl current o r
  have hconsoleLevel : (Logger.console settings stream).level = settings.consoleLevel := rfl
  have hfileLevel (p : Path) : (Logger.logFile settings p).level = settings.fileLevel := rfl
  unfold Logger.deliveries ConsoleTakes FileTakes
  simp only [hr, if_true, he]
  by_cases hlow : settings.level ≤ r.level
  · rw [if_neg (by omega)]
    simp only [logger, List.isEmpty_cons, hlow, true_and, List.filter_cons, hconsoleLevel]
    cases settings.logFile with
    | none => by_cases hc : settings.consoleLevel ≤ r.level <;> simp [hc, hconsole]
    | some p =>
      by_cases hc : settings.consoleLevel ≤ r.level <;>
        by_cases hf : settings.fileLevel ≤ r.level <;>
        simp [hc, hf, hconsole, hfile, hfileLevel]
  · rw [if_pos (by omega)]
    simp [hlow]

end Settings

namespace Session

/-- Writes a text to a sink. -/
def deliver (s : Session) : Sink × String → Session
  | (.console n, text) =>
    { s with errors := fun k => s.errors k ++ if k = n then text else "" }
  | (.file p, text) => { s with world := s.world.append p text }

/-- One action. Setting up the logger may fail. -/
def step (s : Session) : Action → Except SetupFault Session
  | .redirect stream => .ok { s with stream }
  | .configure settings =>
    match (Logger.reconfigure World.host s.logger settings s.stream).run s.world with
    | ((.ok (), logger), world) => .ok { s with logger, world }
    | ((.error e, _), _) => .error e
  | .log o r => .ok ((s.logger.deliveries s.stream o r).foldl deliver s)

def run (s : Session) (actions : List Action) : Except SetupFault Session :=
  actions.foldlM step s

/-- From one session to another texts are added to the error streams and to those files that are
there; the logger, the current stream and the other files stay. -/
structure Adds (s : Session) (toErrors : Nat → String) (toFiles : List String → String)
    (s' : Session) : Prop where
  logger : s'.logger = s.logger
  stream : s'.stream = s.stream
  logPlace : ∀ p, s'.world.logPlace p = s.world.logPlace p
  errors : ∀ n, s'.errors n = s.errors n ++ toErrors n
  content : ∀ place, s'.world.content? place =
    (s.world.content? place).map (· ++ (toFiles place).toUTF8)

variable {s s' s'' : Session} {settings : Settings} {o : Occasion} {r : Record} {a : Action}
  {actions : List Action} {e e' : Nat → String} {f f' : List String → String}

theorem Adds.refl (s : Session) : s.Adds (fun _ => "") (fun _ => "") s :=
  ⟨rfl, rfl, fun _ => rfl, fun _ => String.append_empty.symm, fun _ => by simp⟩

theorem Adds.trans (h : s.Adds e f s') (h' : s'.Adds e' f' s'') :
    s.Adds (fun n => e n ++ e' n) (fun place => f place ++ f' place) s'' where
  logger := h'.logger.trans h.logger
  stream := h'.stream.trans h.stream
  logPlace p := (h'.logPlace p).trans (h.logPlace p)
  errors n := by rw [h'.errors, h.errors, String.append_assoc]
  content place := by
    rw [h'.content, h.content, Option.map_map]
    congr 1
    funext bytes
    simp [ByteArray.append_assoc]

end Session

end TemplateLint.Log
