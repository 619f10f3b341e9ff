import RecordFilter.Detection.Probe
import RecordFilter.Downgrade.Conversion
import RecordFilter.Error
import RecordFilter.Fragment.Basic
import RecordFilter.Settings

/-!
# Event — what is reported while the library works

Events are collected in order. An action that fails keeps the events before its failure.
-/

namespace RecordFilter

/-- What is reported while conditions are compiled, records are filtered and backends are asked. -/
inductive Event
  /-- A regular expression is about to be compiled for a column. -/
  | regexDowngrade (column : Column) (mode : Mode) (caseSensitive : Bool)
  | filteredRecords (records conditions : Nat) (negate : Bool) (kept : Nat)
  | probeAnswered (probe : Probe) (result : Bool)
  | probeNotSupported (probe : Probe)
  | detectedSettings (backend : String) (settings : Settings)
deriving DecidableEq

/-- How much an event matters. -/
inductive Severity
  | trace
  | debug
  | info
  | warn
deriving DecidableEq

def Severity.name : Severity → String
  | trace => "TRACE"
  | debug => "DEBUG"
  | info => "INFO"
  | warn => "WARN"

namespace Event

/-- How important an event is: what was asked of a backend outranks what was done in memory. -/
def severity : Event → Severity
  | regexDowngrade .. => .trace
  | filteredRecords .. => .trace
  | probeAnswered .. => .debug
  | probeNotSupported .. => .warn
  | detectedSettings .. => .info

def message : Event → String
  | regexDowngrade .. => "regex downgrade"
  | filteredRecords .. => "filtered records"
  | probeAnswered .. => "capability probe"
  | probeNotSupported .. => "capability probe not supported, assuming false"
  | detectedSettings .. => "detected backend settings"

/-- What the event tells besides its message, by name. -/
def fields : Event → List (String × String)
  | regexDowngrade column mode caseSensitive =>
    [("column", column.text), ("mode", mode.name), ("case_sensitive", toString caseSensitive)]
  | filteredRecords records conditions negate kept =>
    [("records", toString records), ("conditions", toString conditions),
     ("negate", toString negate), ("kept", toString kept)]
  | probeAnswered probe result => [("probe", probe.name), ("result", toString result)]
  | probeNotSupported probe => [("probe", probe.name)]
  | detectedSettings backend settings =>
    [("backend", backend), ("settings", settings.diagnostic)]

end Event

/-- Work that reports events. -/
abbrev Reporting := StateM (List Event)

/-- Work that reports events and may fail. -/
abbrev Action := ExceptT Error Reporting

/-- Reports an event. -/
def report {m : Type → Type} [MonadStateOf (List Event) m] (e : Event) : m PUnit :=
  modifyThe (List Event) (· ++ [e])

end RecordFilter
