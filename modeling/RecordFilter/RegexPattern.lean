import RecordFilter.Error
import RecordFilter.Regex.Parser
import RecordFilter.Regex.Search

/-!
# RegexPattern — regular expressions with their source

The source is kept for backends that evaluate expressions themselves, the compiled expression for
evaluation in memory.
-/

namespace RecordFilter

structure RegexPattern where
  source : String
  ignoreCase : Bool
  matcher : Regex
  compile_eq : Regex.compile { caseInsensitive := ignoreCase } source = .ok matcher

namespace RegexPattern

/-- Compiles the text of an expression, or tells the fault that makes it none. -/
def compile (source : String) (ignoreCase : Bool) : Except Error RegexPattern :=
  match h : Regex.compile { caseInsensitive := ignoreCase } source with
  | .ok matcher => .ok ⟨source, ignoreCase, matcher, h⟩
  | .error fault => .error (.pattern fault)

/-- Whether the expression matches somewhere in the text; anchors are the expression's own
matter. -/
def isMatch (p : RegexPattern) (text : String) : Bool := p.matcher.isMatch text

/-- Equality of what was asked for, the text and the flag, without a look at the compiled form. -/
def sameAs (p q : RegexPattern) : Bool := p.source = q.source && p.ignoreCase = q.ignoreCase

/-- The source between slashes, with an `i` behind them if case is ignored. -/
def diagnostic (p : RegexPattern) : String :=
  "/" ++ p.source ++ "/" ++ if p.ignoreCase then "i" else ""

end RegexPattern

end RecordFilter
