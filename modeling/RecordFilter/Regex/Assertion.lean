import RecordFilter.Regex.CharClass

/-!
# Regex/Assertion — conditions on a place between two characters

An assertion looks at the character before a place and the one after it; `none` stands for the ends
of the text.
-/

namespace RecordFilter.Regex

/-- A condition on a place between two characters, without any width of its own. -/
inductive Assertion
  | startText
  | endText
  | startLine
  | endLine
  /-- Start of a line, where a carriage return, a line feed or both together end a line. -/
  | startLineCrlf
  | endLineCrlf
  | wordBoundary (a : Alphabet)
  | notWordBoundary (a : Alphabet)
  | wordStart (a : Alphabet)
  | wordEnd (a : Alphabet)
  /-- No word character stands before the place. -/
  | wordStartHalf (a : Alphabet)
  /-- No word character stands after the place. -/
  | wordEndHalf (a : Alphabet)
deriving DecidableEq

/-- Whether a word character stands there; the end of the text is none. -/
def Alphabet.isWord (a : Alphabet) : Option Char → Bool
  | some c => (CharClass.Shorthand.word.chars a).contains c
  | none => false

namespace Assertion

/-- Whether the assertion holds between `before` and `after`. -/
def holds (assertion : Assertion) (before after : Option Char) : Bool :=
  match assertion with
  | startText => before = none
  | endText => after = none
  | startLine => before = none || before = some '\n'
  | endLine => after = none || after = some '\n'
  | startLineCrlf =>
    before = none || before = some '\n' || (before = some '\r' && after ≠ some '\n')
  | endLineCrlf =>
    after = none || after = some '\r' || (after = some '\n' && before ≠ some '\r')
  | wordBoundary a => a.isWord before != a.isWord after
  | notWordBoundary a => a.isWord before == a.isWord after
  | wordStart a => !a.isWord before && a.isWord after
  | wordEnd a => a.isWord before && !a.isWord after
  | wordStartHalf a => !a.isWord before
  | wordEndHalf a => !a.isWord after

end Assertion

end RecordFilter.Regex
