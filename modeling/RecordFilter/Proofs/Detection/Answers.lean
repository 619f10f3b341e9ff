import RecordFilter.Detection.Session

/-!
# Proofs/Detection/Answers — the settings that a detection finds

An executor answers the probes one after the other, and each answer may depend on what was asked
before. `answerTo` is the answer to a probe once all probes before it have been asked. A detection
in which no probe fails finds the settings that these answers tell; otherwise it ends with the first
failure (`detect_result`).
-/

namespace RecordFilter

variable {σ α β γ : Type} {e : Executor σ} {x : σ}

/-! ## Answers -/

/-- Why a probe failed, if it did; one that the backend cannot express has not failed. -/
def failure? : Except ProbeError Value → Option String
  | .error (.failed reason) => some reason
  | _ => none

/-- Whether an answer is yes. A probe that the backend cannot express is answered in the
negative. -/
def saysYes : Except ProbeError Value → Bool
  | .ok answer => isYes answer
  | .error _ => false

/-- The probes that are asked before a probe. -/
def Probe.before : Probe → List Probe
  | sensitiveLike => []
  | insensitiveLike => [sensitiveLike]
  | equality => [sensitiveLike, insensitiveLike]
  | regex => [sensitiveLike, insensitiveLike, equality]

/-- What is reported about a probe. -/
def Probe.reports (p : Probe) : Except ProbeError Value → List Event
  | .ok answer => [.probeAnswered p (isYes answer)]
  | .error .notSupported => [.probeNotSupported p]
  | .error (.failed _) => []

namespace Executor

/-- The collation that the probes are asked with, and the executor from there on. -/
def connect (e : Executor σ) (backend : String) (x : σ) : Option String × σ :=
  if needsCollation backend then e.collation x else (none, x)

/-- The executor after some probes. -/
def after (e : Executor σ) (collation : Option String) (asked : List Probe) (x : σ) : σ :=
  asked.foldl (fun x p => (e.select p collation x).2) x

/-- The answer to a probe, after all probes that are asked before it. -/
def answerTo (e : Executor σ) (backend : String) (x : σ) (p : Probe) : Except ProbeError Value :=
  let start := e.connect backend x
  (e.select p start.1 (e.after start.1 p.before start.2)).1

/-- Why the first probe that failed did so. -/
def firstFailure? (e : Executor σ) (backend : String) (x : σ) : Option String :=
  Probe.all.findSome? fun p => failure? (e.answerTo backend x p)

/-- The executor of a backend that always answers the same to a probe. -/
def answering (answer : Probe → Except ProbeError Value) : Executor Unit where
  collation x := (none, x)
  select p _ x := (answer p, x)

@[simp] theorem firstFailure?_eq_none_iff (e : Executor σ) (backend : String) (x : σ) :
    e.firstFailure? backend x = none ↔ ∀ p, failure? (e.answerTo backend x p) = none := by
  have hall : ∀ p : Probe, p ∈ Probe.all := fun p => by cases p <;> decide
  simp [firstFailure?, hall]

end Executor

/-- The settings of a backend that says yes to these probes. The plain match and equality are asked
about texts that differ in case alone, so a yes says that they ignore it. -/
def Settings.ofAnswers (yes : Probe → Bool) : Settings where
  sensitiveLike := !yes .sensitiveLike
  insensitiveLike := yes .insensitiveLike
  sensitiveCompare := !yes .equality
  useRegex := yes .regex
  useLikeForCompare := yes .sensitiveLike

/-! ## Work on an executor -/

namespace Probing

/-- The end of some work, the executor after it, and all that was reported. -/
def outcome (m : Probing σ α) (x : σ) (log : List Event) : (Except Error α × σ) × List Event :=
  (m.run.run x).run log

/-- How some work ends. -/
def result (m : Probing σ α) (x : σ) (log : List Event) : Except Error α := (m.outcome x log).1.1

theorem outcome_bind (m : Probing σ α) (k : α → Probing σ β) (log : List Event) :
    (m >>= k).outcome x log =
      match m.outcome x log with
      | ((.ok a, x'), log') => (k a).outcome x' log'
      | ((.error error, x'), log') => ((.error error, x'), log') := by
  rw [outcome, ExceptT.run_bind, StateT.run_bind, StateT.run_bind, outcome]
  rcases (m.run.run x).run log with ⟨⟨_ | _, _⟩, _⟩ <;> rfl

/-- A question that always has an answer changes the executor and nothing else. -/
theorem outcome_modifyGet_bind (f : σ → α × σ) (k : α → Probing σ β) (log : List Event) :
    (modifyGetThe σ f >>= k).outcome x log = (k (f x).1).outcome (f x).2 log := rfl

theorem outcome_ask (p : Probe) (collation : Option String) (log : List Event) :
    (p.ask e collation).outcome x log =
      ((match failure? (e.select p collation x).1 with
        | some reason => .error (.probe reason)
        | none => .ok (saysYes (e.select p collation x).1), (e.select p collation x).2),
      log ++ p.reports (e.select p collation x).1) := by
  rw [Probe.ask, outcome_modifyGet_bind]
  rcases (e.select p collation x).1 with (_ | reason) | answer
  · rfl
  · rw [Probe.reports, List.append_nil]
    rfl
  · rfl

/-- **Work goes on behind a probe that has not failed**, and ends with one that has. -/
theorem outcome_ask_bind (p : Probe) (collation : Option String) (k : Bool → Probing σ β)
    (log : List Event) :
    (p.ask e collation >>= k).outcome x log =
      let (answer, x') := e.select p collation x
      match failure? answer with
      | some reason => ((.error (.probe reason), x'), log ++ p.reports answer)
      | none => (k (saysYes answer)).outcome x' (log ++ p.reports answer) := by
  rw [outcome_bind, outcome_ask]
  dsimp only
  cases failure? (e.select p collation x).1 <;> rfl

theorem result_ask_bind (p : Probe) (collation : Option String) (k : Bool → Probing σ β)
    (log : List Event) :
    (p.ask e collation >>= k).result x log =
      (failure? (e.select p collation x).1).elim
        ((k (saysYes (e.select p collation x).1)).result (e.select p collation x).2
          (log ++ p.reports (e.select p collation x).1))
        fun reason => .error (.probe reason) := by
  rw [result, outcome_ask_bind]
  dsimp only
  cases failure? (e.select p collation x).1 <;> rfl

/-- A backend that needs no collation is not asked for one. -/
theorem outcome_connect_bind (backend : String) (k : Option String → Probing σ β)
    (log : List Event) :
    (if needsCollation backend then modifyGetThe σ e.collation >>= k
      else pure none >>= k).outcome x log =
      (k (e.connect backend x).1).outcome (e.connect backend x).2 log := by
  rw [Executor.connect]
  split <;> rfl

theorem result_connect_bind (backend : String) (k : Option String → Probing σ β)
    (log : List Event) :
    (if needsCollation backend then modifyGetThe σ e.collation >>= k
      else pure none >>= k).result x log =
      (k (e.connect backend x).1).result (e.connect backend x).2 log :=
  congrArg (·.1.1) (outcome_connect_bind backend k log)

end Probing

theorem elim_findSome?_cons (f : α → Option β) (a : α) (l : List α) (b : γ) (g : β → γ) :
    ((a :: l).findSome? f).elim b g = (f a).elim ((l.findSome? f).elim b g) g := by
  rw [List.findSome?_cons]
  cases f a <;> rfl

/-- **A detection finds the settings that the answers tell, or ends with the first failure.** -/
theorem detect_result (session : Session) (e : Executor σ) (backend : String) (x : σ) :
    (session.detect e backend x).result =
      (e.firstFailure? backend x).elim (.ok (.ofAnswers fun p => saysYes (e.answerTo backend x p)))
        fun reason => .error (.probe reason) := by
  have hresult : (session.detect e backend x).result = (detect e backend).result x [] := rfl
  rw [hresult, detect, Probing.result_connect_bind]
  simp only [Probing.result_ask_bind, Executor.firstFailure?, Probe.all, elim_findSome?_cons]
  rfl

end RecordFilter
