import RecordFilter.Error
import RecordFilter.Like.Token
import RecordFilter.Regex.Parser
import RecordFilter.Regex.Reader
import RecordFilter.Regex.Search
import RecordFilter.Value.Text

/-!
# Like/Pattern — wildcard patterns and what they match

A pattern matches a text as a whole: `%` any run of characters, `_` any one character, a backslash
and a character that character. Patterns are matched by an anchored regular expression, built once.
-/

namespace RecordFilter

namespace Like

/-- The token as it stands in a regular expression. -/
def Token.inRegex : Token → List Char
  | literal c => Regex.escapeChar c
  | anyChar => ['.']
  | anyRun => ['.', '*']

/-- The regular expression that matches the same texts as the pattern. -/
def regexSource (pattern : String) : String :=
  .ofList ('^' :: (tokens pattern.toList).flatMap Token.inRegex ++ ['$'])

example : regexSource "a%_.\\%" = "^a.*.\\.%$" := by decide

/-- Wildcards match line ends too. -/
def flags (ignoreCase : Bool) : Regex.Flags := { caseInsensitive := ignoreCase, dotAll := true }

end Like

/-- A wildcard pattern with the expression that matches the same texts. -/
structure LikePattern where
  pattern : String
  ignoreCase : Bool
  matcher : Regex
  compile_eq : Regex.compile (Like.flags ignoreCase) (Like.regexSource pattern) = .ok matcher

namespace LikePattern

def compile (pattern : String) (ignoreCase : Bool) : Except Error LikePattern :=
  match h : Regex.compile (Like.flags ignoreCase) (Like.regexSource pattern) with
  | .ok matcher => .ok ⟨pattern, ignoreCase, matcher, h⟩
  | .error fault => .error (.pattern fault)

def isMatch (p : LikePattern) (text : String) : Bool := p.matcher.isMatch text

/-- The text of the expression, in which its flags do not show. -/
def source (p : LikePattern) : String := Like.regexSource p.pattern

/-- Patterns are compared by their texts and those of their expressions. -/
def sameAs (p q : LikePattern) : Bool := p.pattern = q.pattern && p.source = q.source

def diagnostic (p : LikePattern) : String := "LikePattern(" ++ Text.quoted p.pattern ++ ")"

end LikePattern

end RecordFilter
