/-!
# Settings — what a query backend can do
-/

namespace RecordFilter

structure Settings where
  /-- The wildcard match respects case. -/
  sensitiveLike : Bool := true
  /-- There is a wildcard match of its own that ignores case. -/
  insensitiveLike : Bool := true
  /-- Equality respects case. -/
  sensitiveCompare : Bool := true
  /-- Regular expressions are evaluated by the backend. -/
  useRegex : Bool := true
  /-- Equality that ignores case is asked for as a wildcard match, not by lower-casing the column.
  -/
  useLikeForCompare : Bool := false
deriving DecidableEq

namespace Settings

/-- The flags with their names. -/
def flags (s : Settings) : List (String × Bool) := [
  ("sensitive_like", s.sensitiveLike),
  ("insensitive_like", s.insensitiveLike),
  ("sensitive_compare", s.sensitiveCompare),
  ("use_regex", s.useRegex),
  ("use_like_for_compare", s.useLikeForCompare)]

/-- Text for diagnostics: all flags with their names. -/
def diagnostic (s : Settings) : String :=
  let shown := s.flags.map fun (name, on) => name ++ ": " ++ if on then "true" else "false"
  "Settings \x7b " ++ ", ".intercalate shown ++ " \x7d"

end Settings

end RecordFilter
