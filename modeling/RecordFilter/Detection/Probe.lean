import RecordFilter.Value.Basic

/-!
# Detection/Probe — questions about what a backend can do

Each probe is one scalar statement on two constant texts.
-/

namespace RecordFilter

/-- A question about a capability, each answered by one statement on two constant texts. -/
inductive Probe
  /-- Asks for a wildcard match that respects case, on texts that differ in case. -/
  | sensitiveLike
  /-- Asks for a wildcard match that ignores case. -/
  | insensitiveLike
  | equality
  | regex
deriving DecidableEq

namespace Probe

/-- All probes, in the order they are asked. -/
def all : List Probe := [sensitiveLike, insensitiveLike, equality, regex]

/-- The two texts that the statement compares. Those for an expression are the same, since it is
only asked whether expressions work at all. -/
def operands : Probe → String × String
  | regex => ("a", "a")
  | _ => ("a", "A")

/-- The name of a probe, as reports tell it. -/
def name : Probe → String
  | sensitiveLike => "sensitive_like"
  | insensitiveLike => "insensitive_like"
  | equality => "equality"
  | regex => "regex"

end Probe

/-- Why a probe has no answer. -/
inductive ProbeError
  /-- The backend cannot express the probe at all. -/
  | notSupported
  | failed (reason : String)
deriving DecidableEq

def ProbeError.message : ProbeError → String
  | notSupported => "probe not supported by backend"
  | failed reason => "probe failed: " ++ reason

end RecordFilter
