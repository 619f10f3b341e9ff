import RecordFilter.Json.Number
import RecordFilter.Text.Basic

/-!
# Json/Reader — trees from text

The grammar is followed strictly: no comments, no trailing commas, nothing after the tree but
blanks. Every reader returns what it read with the rest of the text, and nothing where the grammar
is broken.
-/

namespace RecordFilter.Json

namespace Reader

def isBlank (c : Char) : Bool := c = ' ' || c = '\t' || c = '\n' || c = '\r'

def skipBlanks (cs : List Char) : List Char := cs.dropWhile isBlank

/-! ## Numbers -/

/-- The digits at the start of a text, and the rest. -/
def takeDigits (cs : List Char) : List Nat × List Char :=
  ((cs.takeWhile Char.isDigit).filterMap Text.decimalDigit?, cs.dropWhile Char.isDigit)

/-- Digits, of which there has to be one. -/
def someDigits? (cs : List Char) : Option (List Nat × List Char) :=
  match takeDigits cs with
  | ([], _) => none
  | taken => some taken

/-- The digits before the point: a zero stands alone. -/
def wholeDigits? (cs : List Char) : Option (List Nat × List Char) :=
  match takeDigits cs with
  | ([], _) => none
  | (0 :: _ :: _, _) => none
  | taken => some taken

/-- The digits after the point, if there is one. -/
def fraction? : List Char → Option (List Nat × List Char)
  | '.' :: cs => someDigits? cs
  | cs => some ([], cs)

/-- The exponent, if there is one. -/
def exponent? : List Char → Option (Option Int × List Char)
  | c :: cs =>
    if c = 'e' ∨ c = 'E' then
      let (negative, cs) := match cs with
        | '-' :: cs => (true, cs)
        | '+' :: cs => (false, cs)
        | cs => (false, cs)
      (someDigits? cs).map fun (ds, rest) =>
        let n : Int := Text.ofDigits 10 ds
        (some (if negative then -n else n), rest)
    else some (none, c :: cs)
  | [] => some (none, [])

/-- A number after its sign. -/
def unsigned? (negative : Bool) (cs : List Char) : Option (Numeral × List Char) := do
  let (whole, cs) ← wholeDigits? cs
  let (fraction, cs) ← fraction? cs
  let (exponent, cs) ← exponent? cs
  let numeral : Numeral := {
    negative, whole, fraction
    exponent := exponent.getD 0
    plain := fraction.isEmpty && exponent.isNone }
  return (numeral, cs)

def numeral? : List Char → Option (Numeral × List Char)
  | '-' :: cs => unsigned? true cs
  | cs => unsigned? false cs

def number? (cs : List Char) : Option (Json × List Char) :=
  (numeral? cs).map fun (n, rest) => (n.tree, rest)

/-! ## Strings -/

/-- The unit that four hexadecimal digits stand for. -/
def codeUnit? : List Char → Option (Nat × List Char)
  | a :: b :: c :: d :: rest => do
    let ds ← [a, b, c, d].mapM Text.hexDigit?
    return (Text.ofDigits 16 ds, rest)
  | _ => none

def isHighSurrogate (n : Nat) : Bool := 0xD800 ≤ n && n < 0xDC00

def isLowSurrogate (n : Nat) : Bool := 0xDC00 ≤ n && n < 0xE000

/-- The second half of a surrogate pair, if it follows. -/
def lowSurrogate? : List Char → Option (Nat × List Char)
  | '\\' :: 'u' :: cs => (codeUnit? cs).filter fun (n, _) => isLowSurrogate n
  | _ => none

/-- A character by its code units, after `\u`; half a surrogate pair denotes no character. -/
def codeUnits? (cs : List Char) : Option (Option Char × List Char) := do
  let (high, rest) ← codeUnit? cs
  if isHighSurrogate high then
    match lowSurrogate? rest with
    | some (low, rest) =>
      return (Text.charOfNat? (0x10000 + (high - 0xD800) * 0x400 + (low - 0xDC00)), rest)
    | none => return (none, rest)
  else return (Text.charOfNat? high, rest)

/-- What follows a backslash. -/
def escaped? : List Char → Option (Option Char × List Char)
  | '"' :: cs => some (some '"', cs)
  | '\\' :: cs => some (some '\\', cs)
  | '/' :: cs => some (some '/', cs)
  | 'b' :: cs => some (some '\x08', cs)
  | 'f' :: cs => some (some '\x0c', cs)
  | 'n' :: cs => some (some '\n', cs)
  | 'r' :: cs => some (some '\r', cs)
  | 't' :: cs => some (some '\t', cs)
  | 'u' :: cs => codeUnits? cs
  | _ => none

/-- The rest of a string after its opening quote. The characters are missing if one of the escapes
denotes none. Each round takes a character, so the length of the text is enough `fuel`. -/
def stringRest? : Nat → List Char → Option (Option (List Char) × List Char)
  | _, [] => none
  | 0, _ => none
  | fuel + 1, c :: cs =>
    if c = '"' then some (some [], cs)
    else if c.toNat < 32 then none
    else do
      let (head, rest) ← if c = '\\' then escaped? cs else some (some c, cs)
      let (tail, rest) ← stringRest? fuel rest
      return (do return (← head) :: (← tail), rest)

/-- The rest of a string after its opening quote; nothing in place of the string if it is not
readable. -/
def string? (cs : List Char) : Option (Option String × List Char) :=
  (stringRest? cs.length cs).map fun (s, rest) => (s.map String.ofList, rest)

/-! ## Trees -/

/-- A word that stands for a tree. -/
def word? (word : String) (tree : Json) (cs : List Char) : Option (Json × List Char) :=
  if word.toList.isPrefixOf cs then some (tree, cs.drop word.length) else none

/-- The object of some members, which is unreadable if one of the keys is. -/
def objectOf (members : List (Option String × Json)) : Json :=
  match members.mapM fun (key, j) => key.map (·, j) with
  | some members => .obj members
  | none => .unreadable

mutual

/-- A tree. Each tree takes a character at least, so the length of the text is enough `fuel`. -/
def tree? : Nat → List Char → Option (Json × List Char)
  | 0, _ => none
  | fuel + 1, cs =>
    match skipBlanks cs with
    | '[' :: cs =>
      match skipBlanks cs with
      | ']' :: cs => some (.arr [], cs)
      | cs => (items? fuel cs).map fun (items, rest) => (.arr items, rest)
    | '\x7b' :: cs =>
      match skipBlanks cs with
      | '\x7d' :: cs => some (.obj [], cs)
      | cs => (members? fuel cs).map fun (members, rest) => (objectOf members, rest)
    | '"' :: cs => (string? cs).map fun (s, rest) => ((s.map Json.str).getD .unreadable, rest)
    | 'n' :: cs => word? "null" .null ('n' :: cs)
    | 't' :: cs => word? "true" (.bool true) ('t' :: cs)
    | 'f' :: cs => word? "false" (.bool false) ('f' :: cs)
    | cs => number? cs

/-- The items of an array up to its end, of which there is one at least. -/
def items? : Nat → List Char → Option (List Json × List Char)
  | 0, _ => none
  | fuel + 1, cs => do
    let (j, rest) ← tree? fuel cs
    match skipBlanks rest with
    | ']' :: rest => return ([j], rest)
    | ',' :: rest =>
      let (items, rest) ← items? fuel rest
      return (j :: items, rest)
    | _ => none

/-- The members of an object up to its end, of which there is one at least. -/
def members? : Nat → List Char → Option (List (Option String × Json) × List Char)
  | 0, _ => none
  | fuel + 1, cs =>
    match skipBlanks cs with
    | '"' :: cs => do
      let (key, rest) ← string? cs
      match skipBlanks rest with
      | ':' :: rest =>
        let (j, rest) ← tree? fuel rest
        match skipBlanks rest with
        | '\x7d' :: rest => return ([(key, j)], rest)
        | ',' :: rest =>
          let (members, rest) ← members? fuel rest
          return ((key, j) :: members, rest)
        | _ => none
      | _ => none
    | _ => none

end

end Reader

/-- The tree that a text is. -/
def parse? (text : String) : Option Json :=
  let cs := text.toList
  match Reader.tree? (cs.length + 1) cs with
  | some (j, rest) => if (Reader.skipBlanks rest).isEmpty then some j else none
  | none => none

end RecordFilter.Json
