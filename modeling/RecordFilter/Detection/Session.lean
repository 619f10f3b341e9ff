import RecordFilter.Detection.Detect
import RecordFilter.Fragment.Compile

/-!
# Detection/Session — the settings in force

A session starts from the defaults and holds one complete set of settings at any time. Everything
that is done with a session hands it on; only installing changes it (`detect_session`,
`compiled_session`), and a detection that fails installs nothing.
-/

namespace RecordFilter

/-- The settings in force. -/
structure Session where
  current : Settings := {}
deriving DecidableEq

/-- The end of a detection: its result, what the executor remembers, what was reported, and the
session that is handed on. -/
structure Detected (σ : Type) where
  result : Except Error Settings
  executor : σ
  events : List Event
  session : Session

/-- The end of a compilation: its result, what was reported, and the session that is handed on. -/
structure Compiled where
  result : Except Error Fragment
  events : List Event
  session : Session

namespace Session

variable {σ : Type}

/-- Puts settings in force. -/
def install (_ : Session) (s : Settings) : Session := ⟨s⟩

/-- Runs a detection. What it finds is not installed. -/
def detect (session : Session) (e : Executor σ) (backend : String) (x : σ) : Detected σ :=
  let ((result, executor), events) := (RecordFilter.detect e backend).run.run x |>.run []
  ⟨result, executor, events, session⟩

/-- Runs a detection and installs what it found. -/
def detectAndInstall (session : Session) (e : Executor σ) (backend : String) (x : σ) :
    Detected σ × Session :=
  let detected := session.detect e backend x
  match detected.result with
  | .ok s => (detected, detected.session.install s)
  | .error _ => (detected, detected.session)

/-- The fragment of an operator under the current settings. -/
def compile (session : Session) (o : Operator) (column : Column) : Action Fragment :=
  o.compile session.current column

/-- Compiles an operator under the current settings, with nothing reported before. -/
def compiled (session : Session) (o : Operator) (column : Column) : Compiled :=
  let (result, events) := (session.compile o column).run.run []
  ⟨result, events, session⟩

@[simp] theorem install_current (session : Session) (s : Settings) :
    (session.install s).current = s := rfl

/-- A detection hands the session on as it was. -/
@[simp] theorem detect_session (session : Session) (e : Executor σ) (backend : String) (x : σ) :
    (session.detect e backend x).session = session := rfl

/-- A compilation hands the session on as it was. -/
@[simp] theorem compiled_session (session : Session) (o : Operator) (column : Column) :
    (session.compiled o column).session = session := rfl

end Session

end RecordFilter
