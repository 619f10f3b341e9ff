/-!
# Regex/Flags — the switches that change how an expression reads
-/

namespace RecordFilter.Regex

/-- Whose letters, digits and word characters an expression means. -/
inductive Alphabet
  | ascii
  | unicode
deriving DecidableEq

/-- The switches in force at a place of an expression; groups may change them. -/
structure Flags where
  /-- Letters match all their case variants. -/
  caseInsensitive : Bool := false
  /-- `^` and `$` also match at line ends. -/
  multiLine : Bool := false
  /-- `.` also matches line ends. -/
  dotAll : Bool := false
  /-- Repetitions are lazy unless a `?` follows. -/
  swapGreed : Bool := false
  /-- Classes and case variants range over all characters, not ASCII alone. -/
  unicode : Bool := true
  /-- A carriage return is a line end too. -/
  crlf : Bool := false
  /-- Blanks and comments in the expression are skipped. -/
  freeSpacing : Bool := false
deriving DecidableEq

namespace Flags

def alphabet (f : Flags) : Alphabet := if f.unicode then .unicode else .ascii

/-- Sets the flag that a letter names; nothing for a letter that names none. -/
def set? (f : Flags) (on : Bool) : Char → Option Flags
  | 'i' => some { f with caseInsensitive := on }
  | 'm' => some { f with multiLine := on }
  | 's' => some { f with dotAll := on }
  | 'U' => some { f with swapGreed := on }
  | 'u' => some { f with unicode := on }
  | 'R' => some { f with crlf := on }
  | 'x' => some { f with freeSpacing := on }
  | _ => none

end Flags

end RecordFilter.Regex
