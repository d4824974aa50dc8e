import TemplateLint.Proofs.RunSteps

/-!
How a run of the program ends, on any host and whatever its log is. Main statement: a run ends before
its log is set up, or else it ends as the linting of its files does.
-/

namespace TemplateLint.Cli

open Log (Logger)
open RunM

variable {σ α β : Type} {host : Host (StateM σ)} {logger : Logger} {r : Request}
  {arguments : List String} {s s' : σ}

namespace RunM

/-- Every value that a part of a run goes on with is good, and every outcome that it ends with is
allowed. -/
def Stays (x : RunM (StateM σ) α) (good : α → Prop) (allowed : Outcome → Prop) : Prop :=
  ∀ s, match (exec x s).1 with
    | .ok a => good a
    | .error o => allowed o

namespace Stays

variable {x : RunM (StateM σ) α} {f : α → RunM (StateM σ) β} {good : α → Prop} {later : β → Prop}
  {allowed : Outcome → Prop}

theorem pure {a : α} (h : good a) : Stays (Pure.pure a : RunM (StateM σ) α) good allowed :=
  fun _ => h

theorem throw {o : Outcome} (h : allowed o) :
    Stays (MonadExcept.throw o : RunM (StateM σ) α) good allowed :=
  fun _ => h

theorem lift {x : StateM σ α} (h : ∀ s, good (x s).1) : Stays (ExceptT.lift x) good allowed :=
  h

theorem lift_any (x : StateM σ α) : Stays (ExceptT.lift x) (fun _ => True) allowed :=
  fun _ => trivial

theorem bind (h : Stays x good allowed) (h' : ∀ a, good a → Stays (f a) later allowed) :
    Stays (x >>= f) later allowed := by
  intro s
  have hx := h s
  rw [exec_bind]
  generalize exec x s = reached at hx ⊢
  obtain ⟨o | a, s'⟩ := reached
  · exact hx
  · exact h' a hx s'

theorem stop {o : Outcome} (h : allowed o) :
    Stays (MonadExcept.throw o >>= f) later allowed :=
  fun _ => h

theorem mapM {γ : Type} {f : γ → RunM (StateM σ) α} {xs : List γ}
    (h : ∀ c ∈ xs, Stays (f c) good allowed) : Stays (xs.mapM f) (fun _ => True) allowed := by
  induction xs with
  | nil => exact .pure trivial
  | cons c rest ih =>
    obtain ⟨hc, hr⟩ := List.forall_mem_cons.mp h
    rw [List.mapM_cons]
    exact hc.bind fun _ _ => (ih hr).bind fun _ _ => .pure trivial

end Stays

end RunM

theorem stays_logAll (host : Host (StateM σ)) (logger : Logger) (records : List Log.Record)
    (allowed : Outcome → Prop) : Stays (logAll host logger records) (fun _ => True) allowed :=
  .lift_any _

theorem stays_fail (host : Host (StateM σ)) (logger : Logger) (message : Wording → String)
    (good : α → Prop) {allowed : Outcome → Prop} (h : allowed (.exit exitUnusable)) :
    Stays (fail host logger message) good allowed :=
  (Stays.lift_any host.wording).bind fun _ _ =>
    (stays_logAll host logger _ allowed).bind fun _ _ => .throw h

theorem stays_refuse (host : Host (StateM σ)) (logger : Logger) (e : SettingError)
    (good : α → Prop) {allowed : Outcome → Prop} (h : allowed (.exit exitUnusable))
    (h' : e.text? = none → allowed (.escaped (.lint (.setting e)))) :
    Stays (refuse host logger e) good allowed := by
  unfold refuse
  cases ht : e.text? with
  | some message => exact stays_fail host logger (fun _ => message) good h
  | none => exact .throw (h' ht)

/-- The command line asks for a run, and the log of the run has been set up. -/
structure Starts (host : Host (StateM σ)) (arguments : List String) (r : Request) (logger : Logger)
    (s s' : σ) : Prop where
  request : Request.ofArguments arguments = .ok r
  logFile : r.logFile ≠ .nothing
  log : Logger.configure host (logSettings r) 0 s = ((.ok (), logger), s')
  source : r.source.isAbsent ∨ r.files.length ≤ 1

theorem run_of_starts (h : Starts host arguments r logger s s') :
    run host arguments s = match exec (lintFiles host logger r) s' with
      | (.ok outcome, s'') | (.error outcome, s'') => (outcome, s'') := by
  have hm : (!r.source.isAbsent && decide (1 < r.files.length)) = false := by
    rcases h.source with ha | hf
    · simp [ha]
    · simp [hf]
  have hx : exec (lintFiles host logger r) s' = (lintFiles host logger r).run s' := rfl
  rw [run, h.request, hx]
  simp only [perform, h.logFile, if_false]
  simp only [bind, StateT.bind, h.log, hm, Bool.false_eq_true, if_false]
  rcases (lintFiles host logger r).run s' with ⟨outcome | outcome, s''⟩ <;> rfl

/-- A run that does not start tells about its command line, or something escapes before any file is
read. -/
theorem starts_or_not (host : Host (StateM σ)) (arguments : List String) (s : σ) :
    (∃ r logger s', Starts host arguments r logger s s') ∨
    (∃ code, (run host arguments s).1 = .usage code) ∨
    (∃ flag, (run host arguments s).1 = .escaped (.noFile flag)) ∨
    ∃ e, (run host arguments s).1 = .escaped (.logSetup e) := by
  cases hr : Request.ofArguments arguments with
  | error st =>
    refine .inr (.inl ?_)
    rw [run, hr]
    cases st with
    | help => exact ⟨_, rfl⟩
    | error e => exact ⟨_, rfl⟩
  | ok r =>
    rw [run, hr]
    by_cases hl : r.logFile = .nothing
    · refine .inr (.inr (.inl ⟨.logFile, ?_⟩))
      simp only [perform, hl, if_true]
      rfl
    · simp only [perform, hl, if_false]
      simp only [bind, StateT.bind]
      rcases hc : Logger.configure host (logSettings r) 0 s with ⟨⟨e | ⟨⟨⟩⟩, logger⟩, s'⟩
      · exact .inr (.inr (.inr ⟨e, rfl⟩))
      · by_cases hm : (!r.source.isAbsent && decide (1 < r.files.length)) = true
        · refine .inr (.inl ⟨exitUnusable, ?_⟩)
          simp only [hm, if_true]
          rfl
        · refine .inl ⟨r, logger, s', hr, hl, hc, ?_⟩
          cases ha : r.source.isAbsent with
          | true => exact .inl rfl
          | false =>
            rw [ha] at hm
            simpa using hm

end TemplateLint.Cli
