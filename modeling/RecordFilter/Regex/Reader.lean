import RecordFilter.Error
import RecordFilter.Regex.Property
import RecordFilter.Regex.Tree
import RecordFilter.Text.Basic

/-!
# Regex/Reader — the parts of an expression that stand by themselves

Counts, escapes and bracket classes. Each reader takes the text after the character that announces
its part and returns what it read with the rest. In free spacing, blanks and comments may stand
almost everywhere, also inside counts and escapes. A plain text is written as an expression by a
backslash before every character that means something there.
-/

namespace RecordFilter.Regex

namespace Reader

def isBlank (c : Char) : Bool := Property.whiteSpace.contains c

/-- The characters up to the first one that does not satisfy `p`, and the rest. In free spacing
(`free`), blanks and comments between them are dropped; `comment` tells whether the text starts
inside a comment. -/
def takeSpaced (free : Bool) (p : Char → Bool) : Bool → List Char → List Char × List Char
  | _, [] => ([], [])
  | true, c :: cs => takeSpaced free p (c ≠ '\n') cs
  | false, c :: cs =>
    if free && isBlank c then takeSpaced free p false cs
    else if free && c = '#' then takeSpaced free p true cs
    else if p c then
      let (taken, rest) := takeSpaced free p false cs
      (c :: taken, rest)
    else ([], c :: cs)

/-- Drops blanks and comments in free spacing. -/
def skip (f : Flags) (cs : List Char) : List Char :=
  (takeSpaced f.freeSpacing (fun _ => false) false cs).2

def takeWhile (f : Flags) (p : Char → Bool) (cs : List Char) : List Char × List Char :=
  takeSpaced f.freeSpacing p false cs

/-! ## Counts -/

/-- A number in a count, which blanks may surround. -/
def count (f : Flags) (cs : List Char) : Except Fault (Nat × List Char) :=
  let (digits, rest) := takeWhile f Char.isDigit (cs.dropWhile isBlank)
  let n := Text.ofDigits 10 (digits.filterMap Text.decimalDigit?)
  if digits.isEmpty || UInt32.size ≤ n then .error .badCount
  else .ok (n, rest.dropWhile isBlank)

/-- The bounds of a repetition, after the opening brace: `n}`, `n,}` or `n,m}`. -/
def bounds (f : Flags) (cs : List Char) : Except Fault ((Nat × Option Nat) × List Char) := do
  let (low, rest) ← count f (skip f cs)
  match rest with
  | '}' :: rest => return ((low, some low), rest)
  | ',' :: rest =>
    match skip f rest with
    | '}' :: rest => return ((low, none), rest)
    | rest =>
      let (high, rest) ← count f rest
      match rest with
      | '}' :: rest => if low ≤ high then return ((low, some high), rest) else .error .badCount
      | _ => .error .badCount
  | _ => .error .badCount

/-! ## Escapes -/

/-- Characters that mean something in an expression. -/
def isMeta (c : Char) : Bool :=
  ['\\', '.', '+', '*', '?', '(', ')', '|', '[', ']', '{', '}', '^', '$', '#', '&', '-',
    '~'].contains c

/-- Whether a backslash before `c` makes it a plain character: any ASCII character may be escaped
but letters and digits, which name classes, and angle brackets, which name word boundaries. -/
def isEscapable (c : Char) : Bool := c.toNat < 128 && !c.isAlphanum && c ≠ '<' && c ≠ '>'

/-- The plain character that a letter after a backslash stands for. -/
def control? : Char → Option Char
  | 'a' => some '\x07'
  | 'f' => some '\x0c'
  | 't' => some '\t'
  | 'n' => some '\n'
  | 'r' => some '\r'
  | 'v' => some '\x0b'
  | _ => none

def codePoint (digits : List Nat) : Except Fault Char :=
  match Text.charOfNat? (Text.ofDigits 16 digits) with
  | some c => .ok c
  | none => .error .badCodePoint

/-- Exactly `n` hexadecimal digits. -/
def hexDigits (f : Flags) : Nat → List Char → Except Fault (List Nat × List Char)
  | 0, cs => .ok ([], cs)
  | n + 1, cs =>
    match skip f cs with
    | [] => .error .badCodePoint
    | c :: cs =>
      match Text.hexDigit? c with
      | none => .error .badCodePoint
      | some d => do
        let (ds, rest) ← hexDigits f n cs
        return (d :: ds, rest)

/-- A character by its code point: `n` hexadecimal digits, or any number of them in braces. Two
digits without braces stand for a byte, which is no character beyond ASCII unless the flags admit
all. -/
def hexEscape (f : Flags) (n : Nat) (cs : List Char) : Except Fault (Leaf × List Char) :=
  match skip f cs with
  | '{' :: cs =>
    match takeWhile f (· ≠ '}') cs with
    | (text, '}' :: rest) =>
      match text.mapM Text.hexDigit? with
      | some (d :: ds) => do return (.literal (← codePoint (d :: ds)), rest)
      | _ => .error .badCodePoint
    | _ => .error .badCodePoint
  | cs => do
    let (ds, rest) ← hexDigits f n cs
    let c ← codePoint ds
    if n = 2 && !f.unicode && 128 ≤ c.toNat then .error .needsUnicode
    else return (.literal c, rest)

/-- The class of a property between braces, and whether the text itself negates it. -/
def propertyClass? (text : List Char) : Option (CharClass × Bool) :=
  match Text.splitAt? ['!', '='] text with
  | some (name, value) => (CharClass.ofNameValue? name value).map (·, true)
  | none =>
    match Text.splitAt? [':'] text <|> Text.splitAt? ['='] text with
    | some (name, value) => (CharClass.ofNameValue? name value).map (·, false)
    | none => (CharClass.ofName? text).map (·, false)

/-- A class by the name of a property: one letter, or a name in braces. -/
def propertyEscape (f : Flags) (negated : Bool) (cs : List Char) :
    Except Fault (Leaf × List Char) := do
  let (found, rest) ←
    match skip f cs with
    | [] => .error .badEscape
    | '{' :: cs =>
      match takeWhile f (· ≠ '}') cs with
      | (text, '}' :: rest) => .ok (propertyClass? text, rest)
      | _ => .error .badEscape
    | '\\' :: _ => .error .badEscape
    | c :: rest => .ok ((CharClass.ofName? [c]).map (·, false), rest)
  match found with
  | none => .error .unknownProperty
  | some (s, inverted) =>
    if f.unicode then return (.named s (negated != inverted), rest) else .error .needsUnicode

/-- The word boundary that a name in braces after `\b` stands for. -/
def boundary? (a : Alphabet) (name : List Char) : Option Assertion :=
  if name = "start".toList then some (.wordStart a)
  else if name = "end".toList then some (.wordEnd a)
  else if name = "start-half".toList then some (.wordStartHalf a)
  else if name = "end-half".toList then some (.wordEndHalf a)
  else none

def isBoundaryChar (c : Char) : Bool := c.isAlpha || c = '-'

/-- A word boundary after `\b`. Braces whose text does not start like a name are left alone: they
are the count of a repetition. -/
def boundaryEscape (f : Flags) (cs : List Char) : Except Fault (Leaf × List Char) :=
  match cs with
  | '{' :: inside =>
    match takeWhile f isBoundaryChar inside with
    | ([], []) => .error .badEscape
    | ([], _) => .ok (.assertion (.wordBoundary f.alphabet), cs)
    | (name, '}' :: rest) =>
      match boundary? f.alphabet name with
      | some a => .ok (.assertion a, rest)
      | none => .error .badEscape
    | _ => .error .badEscape
  | _ => .ok (.assertion (.wordBoundary f.alphabet), cs)

/-- A shorthand class. Its complement has characters beyond ASCII. -/
def shorthand (f : Flags) (k : CharClass.Shorthand) (negated : Bool) (cs : List Char) :
    Except Fault (Leaf × List Char) :=
  if negated && !f.unicode then .error .needsUnicode else .ok (.shorthand k negated, cs)

/-- What follows a backslash. -/
def escape (f : Flags) : List Char → Except Fault (Leaf × List Char)
  | [] => .error .badEscape
  | 'x' :: cs => hexEscape f 2 cs
  | 'u' :: cs => hexEscape f 4 cs
  | 'U' :: cs => hexEscape f 8 cs
  | 'p' :: cs => propertyEscape f false cs
  | 'P' :: cs => propertyEscape f true cs
  | 'd' :: cs => shorthand f .digit false cs
  | 'D' :: cs => shorthand f .digit true cs
  | 's' :: cs => shorthand f .space false cs
  | 'S' :: cs => shorthand f .space true cs
  | 'w' :: cs => shorthand f .word false cs
  | 'W' :: cs => shorthand f .word true cs
  | 'A' :: cs => .ok (.assertion .startText, cs)
  | 'z' :: cs => .ok (.assertion .endText, cs)
  | 'b' :: cs => boundaryEscape f cs
  | 'B' :: cs => .ok (.assertion (.notWordBoundary f.alphabet), cs)
  | '<' :: cs => .ok (.assertion (.wordStart f.alphabet), cs)
  | '>' :: cs => .ok (.assertion (.wordEnd f.alphabet), cs)
  | c :: cs =>
    match control? c with
    | some d => .ok (.literal d, cs)
    | none => if isEscapable c then .ok (.literal c, cs) else .error .badEscape

/-! ## Bracket classes -/

/-- An open bracket: what has been read of its inside. -/
structure Bracket where
  negated : Bool
  /-- The parts since the bracket or the last operator, last first. -/
  parts : List ClassTree
  /-- The last operator, with its left side. -/
  left? : Option (SetOp × ClassTree)

namespace Bracket

def add (b : Bracket) (s : ClassTree) : Bracket := { b with parts := s :: b.parts }

/-- The whole inside so far. -/
def inside (b : Bracket) : ClassTree :=
  let right := ClassTree.sequence b.parts.reverse
  match b.left? with
  | some (o, left) => .op o left right
  | none => right

/-- Operators have equal weight and apply from the left. -/
def operator (b : Bracket) (o : SetOp) : Bracket :=
  { b with parts := [], left? := some (o, b.inside) }

end Bracket

/-- What follows an opening bracket: a `^` that negates, and characters that are plain at the start,
any number of hyphens or else one closing bracket. -/
def openBracket (f : Flags) (cs : List Char) : Except Fault (Bracket × List Char) :=
  let cs := skip f cs
  let (negated, cs) := match cs with
    | '^' :: rest => (true, rest)
    | _ => (false, cs)
  if negated && !f.unicode then .error .needsUnicode
  else
    match takeWhile f (· = '-') cs with
    | ([], ']' :: rest) => .ok (⟨negated, [.literal ']'], none⟩, rest)
    | (hyphens, rest) => .ok (⟨negated, hyphens.map .literal, none⟩, rest)

/-- A class by its name, after `[:`. Where the text does not have this form nothing is read. -/
def asciiClass? (cs : List Char) : Option (CharClass × Bool × List Char) :=
  let (negated, cs) := match cs with
    | '^' :: rest => (true, rest)
    | _ => (false, cs)
  match cs.span (· ≠ ':') with
  | (name, ':' :: ']' :: rest) => (CharClass.ascii? (.ofList name)).map (·, negated, rest)
  | _ => none

def classItem (f : Flags) : List Char → Except Fault (Leaf × List Char)
  | [] => .error .unclosedClass
  | '\\' :: cs => escape f cs
  | c :: cs => .ok (.literal c, cs)

def classLiteral (f : Flags) (c : Char) : Except Fault Char :=
  if !f.unicode && 128 ≤ c.toNat then .error .needsUnicode else .ok c

/-- A single item of a class; an assertion is none. -/
def itemTree (f : Flags) : Leaf → Except Fault ClassTree
  | .literal c => do return .literal (← classLiteral f c)
  | .named s negated => .ok (.named s negated)
  | .shorthand k negated => .ok (.shorthand k negated)
  | _ => .error .badClassItem

def rangeEnd (f : Flags) : Leaf → Except Fault Char
  | .literal c => classLiteral f c
  | _ => .error .badRange

/-- The next character that is no blank, past one number sign that opens a comment. -/
def peekSpaced : Bool → List Char → Option Char
  | _, [] => none
  | comment, c :: cs =>
    if isBlank c then peekSpaced comment cs
    else if !comment && c = '#' then peekSpaced true cs
    else some c

/-- Whether the text after a hyphen makes it the middle of a range: not before the end of the class
and not before a second hyphen. -/
def continuesRange (f : Flags) (cs : List Char) : Bool :=
  let next := if f.freeSpacing then peekSpaced false cs else cs.head?
  next ≠ some ']' && next ≠ some '-'

/-- A single item or a range. -/
def classPart (f : Flags) (cs : List Char) : Except Fault (ClassTree × List Char) := do
  let (low, rest) ← classItem f cs
  match skip f rest with
  | '-' :: after =>
    if continuesRange f after then
      let (high, rest) ← classItem f (skip f after)
      let a ← rangeEnd f low
      let b ← rangeEnd f high
      if a ≤ b then return (.range a b, rest) else .error .badRange
    else return (← itemTree f low, '-' :: after)
  | rest => return (← itemTree f low, rest)

/-- Reads on inside open brackets, the innermost first, until the outermost closes. Every round
takes a character, so the length of the text is enough `fuel`. -/
def classRest (f : Flags) :
    Nat → Bracket → List Bracket → List Char → Except Fault (Bracket × List Char)
  | 0, _, _, _ => .error .unclosedClass
  | fuel + 1, b, outer, cs =>
    match skip f cs with
    | [] => .error .unclosedClass
    | ']' :: rest =>
      match outer with
      | [] => .ok (b, rest)
      | o :: outer => classRest f fuel (o.add (.bracket b.negated b.inside)) outer rest
    | '[' :: rest =>
      let named := match rest with
        | ':' :: name => asciiClass? name
        | _ => none
      match named with
      | some (s, negated, rest) =>
        if negated && !f.unicode then .error .needsUnicode
        else classRest f fuel (b.add (.named s negated)) outer rest
      | none => do
        let (inner, rest) ← openBracket f rest
        classRest f fuel inner (b :: outer) rest
    | '&' :: '&' :: rest => classRest f fuel (b.operator .inter) outer rest
    | '-' :: '-' :: rest => classRest f fuel (b.operator .diff) outer rest
    | '~' :: '~' :: rest => classRest f fuel (b.operator .symmDiff) outer rest
    | cs => do
      let (part, rest) ← classPart f cs
      classRest f fuel (b.add part) outer rest

/-- A bracket class, after its opening bracket. -/
def bracketClass (f : Flags) (cs : List Char) : Except Fault (Leaf × List Char) := do
  let (b, rest) ← openBracket f cs
  let (b, rest) ← classRest f (rest.length + 1) b [] rest
  return (.bracket b.negated b.inside, rest)

end Reader

/-! ## Plain texts -/

/-- The expression that matches one character. -/
def escapeChar (c : Char) : List Char := if Reader.isMeta c then ['\\', c] else [c]

/-- The expression that matches a text. -/
def escape (s : String) : String := .ofList (s.toList.flatMap escapeChar)

end RecordFilter.Regex
