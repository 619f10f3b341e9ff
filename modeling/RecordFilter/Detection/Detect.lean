import RecordFilter.Event
import RecordFilter.Text.Basic

/-!
# Detection/Detect — learning what a backend can do

Four probes are asked one after the other. A probe the backend cannot express counts as answered in
the negative; one that fails ends the detection. The executor may change with every question, so its
state is passed along.
-/

namespace RecordFilter

/-- Puts questions to a backend; `σ` is what it remembers between them. -/
structure Executor (σ : Type) where
  /-- The collation of the connection, if it has one. -/
  collation : σ → Option String × σ
  /-- Asks a probe, with a collation to be applied to it if one is given. -/
  select : Probe → Option String → σ → Except ProbeError Value × σ

/-- What an executor may be asked. -/
inductive Question
  | collation
  | probe (p : Probe) (collation : Option String)
deriving DecidableEq

namespace Executor

variable {σ : Type}

/-- The same executor, which also notes down every question. -/
def recorded (e : Executor σ) : Executor (σ × List Question) where
  collation := fun (x, asked) =>
    let (answer, x) := e.collation x
    (answer, x, asked ++ [.collation])
  select := fun p collation (x, asked) =>
    let (answer, x) := e.select p collation x
    (answer, x, asked ++ [.probe p collation])

/-- The same executor on a connection without a collation. -/
def withoutCollation (e : Executor σ) : Executor σ := { e with collation := fun x => (none, x) }

end Executor

/-- Work that puts questions to an executor. -/
abbrev Probing (σ : Type) := ExceptT Error (StateT σ Reporting)

/-- Whether the answer to a probe is yes. -/
def isYes : Value → Bool
  | .bool b => b
  | .int n => n = 1
  | _ => false

variable {σ : Type}

/-- Asks one probe. -/
def Probe.ask (p : Probe) (e : Executor σ) (collation : Option String) : Probing σ Bool := do
  match ← modifyGetThe σ (e.select p collation) with
  | .ok answer =>
    report (.probeAnswered p (isYes answer))
    return isYes answer
  | .error .notSupported =>
    report (.probeNotSupported p)
    return false
  | .error (.failed reason) => throw (.probe reason)

/-- Whether a backend's probes need the collation of the connection; elsewhere the default one gives
the expected answers. -/
def needsCollation (backend : String) : Bool := Text.occursIn "mysql" backend

/-- The settings that a backend supports. -/
def detect (e : Executor σ) (backend : String) : Probing σ Settings := do
  let collation ← if needsCollation backend then modifyGetThe σ e.collation else pure none
  let likeIgnoresCase ← Probe.sensitiveLike.ask e collation
  let insensitiveLike ← Probe.insensitiveLike.ask e collation
  let equalityIgnoresCase ← Probe.equality.ask e collation
  let useRegex ← Probe.regex.ask e collation
  let settings : Settings := {
    sensitiveLike := !likeIgnoresCase
    insensitiveLike
    sensitiveCompare := !equalityIgnoresCase
    useRegex
    useLikeForCompare := likeIgnoresCase }
  report (.detectedSettings backend settings)
  return settings

end RecordFilter
