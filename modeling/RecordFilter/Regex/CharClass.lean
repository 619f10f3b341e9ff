import RecordFilter.Regex.Flags
import RecordFilter.Regex.Property.Basic
import RecordFilter.Regex.Property.Category
import RecordFilter.Text.CaseFolding

/-!
# Regex/CharClass — sets of characters

A class is an expression over ranges and tables of characters; `contains` is its meaning.
-/

namespace RecordFilter.Regex

/-- The characters that differ from `c` at most in case. -/
def Alphabet.variants : Alphabet → Char → List Char
  | .ascii => Text.asciiCaseVariants
  | .unicode => Text.caseVariants

/-- A set of characters, as an expression that is not evaluated until a character is looked up. -/
inductive CharClass
  | empty
  | range (low high : Char)
  | table (t : Text.RangeTable)
  | union (s t : CharClass)
  | inter (s t : CharClass)
  | diff (s t : CharClass)
  | symmDiff (s t : CharClass)
  | compl (s : CharClass)
  /-- The characters with a case variant in the class. -/
  | folded (a : Alphabet) (s : CharClass)
deriving DecidableEq

namespace CharClass

/-- **The meaning of a class**: which characters are in it. -/
def contains : CharClass → Char → Bool
  | empty, _ => false
  | range low high, c => low ≤ c && c ≤ high
  | table t, c => t.contains c
  | union s t, c => s.contains c || t.contains c
  | inter s t, c => s.contains c && t.contains c
  | diff s t, c => s.contains c && !t.contains c
  | symmDiff s t, c => s.contains c != t.contains c
  | compl s, c => !s.contains c
  | folded a s, c => (a.variants c).any s.contains

/-- The class of one character. -/
def single (c : Char) : CharClass := range c c

/-- The class of all characters, line ends included. -/
def any : CharClass := compl empty

/-- The union of a list of classes. -/
def unions (ss : List CharClass) : CharClass := ss.foldr union empty

def ofList (cs : List Char) : CharClass := unions (cs.map single)

/-- The digits of `[:digit:]`, and of `\d` if only ASCII counts. -/
def asciiDigit : CharClass := range '0' '9'

def asciiLower : CharClass := range 'a' 'z'

def asciiUpper : CharClass := range 'A' 'Z'

def asciiAlpha : CharClass := union asciiUpper asciiLower

def asciiAlnum : CharClass := union asciiDigit asciiAlpha

/-- The blanks of `[:space:]`: tab, the line ends and page breaks after it, and the space. -/
def asciiSpace : CharClass := union (range '\t' '\r') (single ' ')

/-- The word characters of ASCII: letters, digits and the underscore. -/
def asciiWord : CharClass := union asciiAlnum (single '_')

/-- The visible characters of ASCII that are neither letters nor digits. -/
def asciiPunct : CharClass :=
  unions [range '!' '/', range ':' '@', range '[' '\x60', range '\x7b' '~']

/-- The class of a name that stands between `[:` and `:]`; all of them are ASCII. -/
def ascii? : String → Option CharClass
  | "alnum" => some asciiAlnum
  | "alpha" => some asciiAlpha
  | "ascii" => some (range '\x00' '\x7f')
  | "blank" => some (ofList ['\t', ' '])
  | "cntrl" => some (union (range '\x00' '\x1f') (single '\x7f'))
  | "digit" => some asciiDigit
  | "graph" => some (range '!' '~')
  | "lower" => some asciiLower
  | "print" => some (range ' ' '~')
  | "punct" => some asciiPunct
  | "space" => some asciiSpace
  | "upper" => some asciiUpper
  | "word" => some asciiWord
  | "xdigit" => some (unions [asciiDigit, range 'A' 'F', range 'a' 'f'])
  | _ => none

/-- The three kinds of characters with an escape of their own, in either alphabet. -/
inductive Shorthand
  | digit
  | space
  | word
deriving DecidableEq

/-- What a shorthand stands for. In the larger alphabet these are properties of characters, not
ranges. -/
def Shorthand.chars : Shorthand → Alphabet → CharClass
  | digit, .ascii => asciiDigit
  | space, .ascii => asciiSpace
  | word, .ascii => asciiWord
  | digit, .unicode => table Category.decimalNumber
  | space, .unicode => table Property.whiteSpace
  | word, .unicode => table Property.word

end CharClass

end RecordFilter.Regex
