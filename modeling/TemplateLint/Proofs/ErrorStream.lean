import TemplateLint.Proofs.FileContents
import TemplateLint.Proofs.HostView

/-!
The error stream of a closed world. Main statements: reading files, writing to the output and
opening a log file neither depend on what is in it nor add to it.
-/

namespace TemplateLint

namespace World

variable {α β γ : Type} {x : StateM World α} {f : α → StateM World β}

/-- A part of a run that does not look at the error stream, nor write to it. -/
def LeavesErr (x : StateM World α) : Prop :=
  ∀ w, (x w).2.stamp = w.stamp ∧ ∀ err, x { w with err } = ((x w).1, { (x w).2 with err })

namespace LeavesErr

theorem pure (a : α) : LeavesErr (Pure.pure a) :=
  fun _ => ⟨rfl, fun _ => rfl⟩

theorem bind (h : LeavesErr x) (h' : ∀ a, LeavesErr (f a)) : LeavesErr (x >>= f) := by
  intro w
  obtain ⟨hstamp, hx⟩ := h w
  obtain ⟨hstamp', hf⟩ := h' (x w).1 (x w).2
  refine ⟨hstamp'.trans hstamp, ?_⟩
  intro err
  have hrun : (x >>= f) { w with err } = f (x { w with err }).1 (x { w with err }).2 := rfl
  rw [hrun, hx]
  exact hf err

theorem forM {g : γ → StateM World PUnit} (h : ∀ c, LeavesErr (g c)) (xs : List γ) :
    LeavesErr (xs.forM g) := by
  induction xs with
  | nil => exact .pure ()
  | cons c rest ih => exact (h c).bind fun _ => ih

theorem read (p : Path) : LeavesErr (host.read p) := by
  refine fun w => ⟨rfl, fun err => ?_⟩
  have hd : visible.disk { w with err } = visible.disk w := disk_congr rfl rfl
  exact congrArg (fun d : Disk => (d.read p, { w with err })) hd

theorem isFile (p : Path) : LeavesErr (host.isFile p) := by
  refine fun w => ⟨rfl, fun err => ?_⟩
  have hd : visible.disk { w with err } = visible.disk w := disk_congr rfl rfl
  exact congrArg (fun d : Disk => (d.isFile p, { w with err })) hd

theorem writeOut (text : String) : LeavesErr (host.writeOut text) :=
  fun _ => ⟨rfl, fun _ => rfl⟩

theorem wording : LeavesErr host.wording :=
  fun _ => ⟨rfl, fun _ => rfl⟩

theorem readText (p : Path) : LeavesErr (host.readText p) := by
  refine (read p).bind fun bytes => ?_
  cases bytes with
  | error e => exact .pure _
  | ok bytes =>
    simp only
    cases decodeText bytes with
    | none => exact .pure _
    | some s => exact .pure _

theorem loadConfig (p : Path) (known : Option (List String)) :
    LeavesErr (LintConfig.load host p known) := by
  refine (readText p).bind fun text => ?_
  cases LintConfig.parse p text with
  | error e => exact .pure _
  | ok data => exact .pure _

theorem loadTemplate (p : Path) : LeavesErr (Template.load host p) :=
  (readText p).bind fun _ => .pure _

theorem loadSource (p : Path) (given : Option Path) : LeavesErr (Template.source host p given) := by
  cases given with
  | some q => exact readText q
  | none =>
    rw [Template.source]
    by_cases he : p.extension = ".json"
    · simp only [he, if_true]
      refine (isFile p.withoutExtension).bind fun found => ?_
      cases found with
      | true => exact readText _
      | false => exact .pure _
    · simp only [he, if_false]
      exact .pure _

end LeavesErr

variable {w : World}

/-- Where a log file is given, a text is added to it. -/
def toLogFile (w : World) (path? : Option Path) (text : String) : World :=
  path?.elim w (w.append · text)

theorem toLogFile_stamp (w : World) (path? : Option Path) (text : String) :
    (w.toLogFile path? text).stamp = w.stamp := by
  cases path? with
  | none => rfl
  | some p =>
    show (w.append p text).stamp = w.stamp
    cases hc : w.content? (w.logPlace p) with
    | none => rw [append_of_no_content hc]
    | some bytes =>
      rw [append_of_content hc]
      rfl

theorem openLog_err (w : World) (p : Path) (err : String) :
    openLog { w with err } p = (w.openLog p).map fun w' => { w' with err } := by
  have hf : follow { w with err } = w.follow := by
    funext place parts
    exact follow_congr (show ({ w with err } : World).files = w.files from rfl) place parts
  have hp : logPlace { w with err } p = w.logPlace p := rfl
  unfold openLog
  rw [hf, hp]
  split
  · rfl
  · simp only
    split
    · rfl
    · rfl
    · split <;> rfl
    · rfl

/-- The world in which a log file is open, where one is given. -/
def startLog (w : World) (path? : Option Path) : Except FileFault World :=
  path?.elim (.ok w) w.openLog

theorem startLog_stamp {w' : World} {path? : Option Path} (h : w.startLog path? = .ok w') :
    w'.stamp = w.stamp := by
  cases path? with
  | none =>
    cases h
    rfl
  | some p =>
    rcases openLog_eq_ok h with ⟨rfl, -⟩ | ⟨-, -, rfl⟩
    · rfl
    · rfl

end World

end TemplateLint
