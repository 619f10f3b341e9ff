import Mathlib.Data.List.Induction
import RecordFilter.Proofs.Detection.Answers

/-!
# Proofs/Detection/Session — which settings are in force

A run takes a session from step to step, each of which hands it on. Settings are put in force by
installing them and by detections that install what they find, the latter only if no probe fails; no
other step leaves a trace (`step_current`). So the settings in force are always the ones that were
put in force last, and the defaults before that (`run_current_eq_inForce`).
-/

namespace RecordFilter

namespace Session

/-- What may be done with a session. Every detection may have an executor of its own. -/
inductive Step : Type 1
  | current
  | install (s : Settings)
  | detect {σ : Type} (e : Executor σ) (backend : String) (x : σ)
  | detectAndInstall {σ : Type} (e : Executor σ) (backend : String) (x : σ)
  | compile (o : Operator) (column : Column)

/-- The session behind a step. -/
def step (session : Session) : Step → Session
  | .current => session
  | .install s => session.install s
  | .detect e backend x => (session.detect e backend x).session
  | .detectAndInstall e backend x => (session.detectAndInstall e backend x).2
  | .compile o column => (session.compiled o column).session

def run (session : Session) (steps : List Step) : Session := steps.foldl step session

/-- The settings that a step puts in force, if it does. -/
def Step.settings? : Step → Option Settings
  | .install s => some s
  | .detectAndInstall e backend x =>
    match e.firstFailure? backend x with
    | none => some (.ofAnswers fun p => saysYes (e.answerTo backend x p))
    | some _ => none
  | .current | .detect .. | .compile .. => none

/-- The settings that some steps put in force last, or the defaults. -/
def inForce (steps : List Step) : Settings := ((steps.filterMap Step.settings?).getLast?).getD {}

variable {σ : Type} {steps : List Step} {st : Step} {s : Settings}

/-! ## One step -/

/-- **A detection that installs what it finds succeeds with the settings it puts in force.** -/
theorem detectAndInstall_result_eq_ok_iff (session : Session) (e : Executor σ) (backend : String)
    (x : σ) : (session.detectAndInstall e backend x).1.result = .ok s ↔
      (Step.detectAndInstall e backend x).settings? = some s := by
  have hresult : (session.detectAndInstall e backend x).1.result =
      (session.detect e backend x).result := by
    simp only [detectAndInstall]
    split <;> rfl
  rw [hresult, detect_result, Step.settings?]
  cases e.firstFailure? backend x <;> simp

/-- **Settings are in force that the step put there, and the former ones otherwise.** -/
theorem step_current (session : Session) (st : Step) :
    (session.step st).current = st.settings?.getD session.current := by
  cases st with
  | current => rfl
  | install s => simp [step, Step.settings?]
  | detect e backend x => simp [step, Step.settings?]
  | compile o column => simp [step, Step.settings?]
  | detectAndInstall e backend x =>
    rw [step, Session.detectAndInstall, Step.settings?, detect_result]
    cases e.firstFailure? backend x <;> simp

/-- A step that puts no settings in force leaves the session as it was. -/
theorem step_eq_self (session : Session) (h : st.settings? = none) : session.step st = session := by
  have hcurrent := step_current session st
  rw [h] at hcurrent
  cases session
  exact congrArg Session.mk hcurrent

/-- Detections fail exactly with one of their probes. -/
theorem settings?_detectAndInstall_eq_none_iff (e : Executor σ) (backend : String) (x : σ) :
    (Step.detectAndInstall e backend x).settings? = none ↔
      ∃ p reason, failure? (e.answerTo backend x p) = some reason := by
  have hiff := e.firstFailure?_eq_none_iff backend x
  rw [Step.settings?]
  cases hfail : e.firstFailure? backend x with
  | none =>
    have hnone := hiff.mp hfail
    simp [hnone]
  | some reason =>
    rw [hfail] at hiff
    simpa [Option.ne_none_iff_exists'] using hiff

/-- Detections ask for wildcard matches exactly where these ignore case. -/
theorem useLikeForCompare_of_settings? (hst : st.settings? = some s) (hinstall : st ≠ .install s) :
    s.useLikeForCompare = !s.sensitiveLike := by
  cases st with
  | install s' => exact absurd (congrArg Step.install (Option.some.inj hst)) hinstall
  | detectAndInstall e backend x =>
    rw [Step.settings?] at hst
    split at hst
    · cases hst
      exact (Bool.not_not _).symm
    · cases hst
  | current | detect | compile => cases hst

/-! ## Runs -/

@[simp] theorem run_append_singleton (session : Session) (steps : List Step) (st : Step) :
    session.run (steps ++ [st]) = (session.run steps).step st := by
  simp [run]

@[simp] theorem inForce_append_singleton (steps : List Step) (st : Step) :
    inForce (steps ++ [st]) = st.settings?.getD (inForce steps) := by
  cases hst : st.settings? <;> simp [inForce, hst]

theorem run_current (steps : List Step) : (run {} steps).current = inForce steps := by
  induction steps using List.reverseRecOn with
  | nil => rfl
  | append_singleton steps st ih =>
    simp [step_current, ih]

/-- Without a manual installation, wildcard matches are asked for exactly where they ignore case. -/
theorem run_useLikeForCompare (h : ∀ s, .install s ∉ steps) :
    (run {} steps).current.useLikeForCompare = !(run {} steps).current.sensitiveLike := by
  induction steps using List.reverseRecOn with
  | nil => rfl
  | append_singleton steps st ih =>
    simp only [run_append_singleton, step_current]
    cases hst : st.settings? with
    | none => exact ih fun s hs => h s (List.mem_append_left _ hs)
    | some s => exact useLikeForCompare_of_settings? hst fun heq => h s (by simp [heq])

/-- **The settings in force are the ones put in force last**, by an installation or by a detection
none of whose probes failed, and the defaults before that. All other steps leave the session as it
was. Without a manual installation, wildcard matches are asked for exactly where they ignore
case. -/
theorem run_current_eq_inForce :
    (∀ steps, (run {} steps).current = inForce steps) ∧
    (∀ (session : Session) (st : Step), st.settings? = none → session.step st = session) ∧
    (∀ {σ : Type} (session : Session) (e : Executor σ) (backend : String) (x : σ),
      (∀ s, (session.detectAndInstall e backend x).1.result = .ok s ↔
        (Step.detectAndInstall e backend x).settings? = some s) ∧
      ((Step.detectAndInstall e backend x).settings? = none ↔
        ∃ p reason, failure? (e.answerTo backend x p) = some reason)) ∧
    ∀ steps, (∀ s, .install s ∉ steps) →
      (run {} steps).current.useLikeForCompare = !(run {} steps).current.sensitiveLike :=
  ⟨run_current, fun session _ => step_eq_self session,
    fun session e backend x => ⟨fun _ => detectAndInstall_result_eq_ok_iff session e backend x,
      settings?_detectAndInstall_eq_none_iff e backend x⟩,
    fun _ => run_useLikeForCompare⟩

/-- The first detection finds that wildcard matches and equality ignore case, the second one fails
at its last probe, and neither it nor what follows leaves a trace. -/
theorem run_current_after_failure :
    let found := Executor.answering fun p =>
      if p = .regex then .error .notSupported else .ok (.int 1)
    let failing := Executor.answering fun p =>
      if p = .regex then .error (.failed "timeout") else .ok (.int 0)
    let steps : List Step := [.current, .detectAndInstall found "sqlite" (),
      .detect failing "sqlite" (), .detectAndInstall failing "sqlite" (),
      .compile (.equalsIgnoreCase (.str "a")) { name := "n" }]
    (run {} steps).current = ⟨false, true, false, false, true⟩ ∧
      (run {} steps).current.useLikeForCompare = !(run {} steps).current.sensitiveLike := by
  intro found failing steps
  obtain ⟨hrun, -, -, hlike⟩ := run_current_eq_inForce
  exact ⟨(hrun steps).trans (by decide), hlike steps (by simp [steps])⟩

end Session

end RecordFilter
