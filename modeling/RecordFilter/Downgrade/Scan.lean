/-!
# Downgrade/Scan — what is ruled out, and what is stripped, before tokens are read
-/

namespace RecordFilter.Downgrade

/-- Whether a star stands after anything but a point: to repeat a certain character or class takes
more than a wildcard. -/
def hasUnconvertibleRepetition : List Char → Bool
  | a :: b :: rest => (b = '*' && a ≠ '.') || hasUnconvertibleRepetition (b :: rest)
  | _ => false

/-- `hasWideClass` on the rest of a text; `since` is how far the text is past the first opening
bracket of its line. -/
def hasWideClassFrom : Option Nat → List Char → Bool
  | _, [] => false
  | none, c :: rest => hasWideClassFrom (if c = '[' then some 1 else none) rest
  | some since, c :: rest =>
    if c = '\n' then hasWideClassFrom none rest
    else (c = ']' && 3 ≤ since) || hasWideClassFrom (some (since + 1)) rest

/-- Whether brackets with two or more characters between them stand on one line. The first opening
bracket of a line gives the widest span for any closing one. -/
def hasWideClass (cs : List Char) : Bool := hasWideClassFrom none cs

/-- Whether the text ends in a backslash that no other backslash escapes. -/
def endsWithEscape (cs : List Char) : Bool :=
  (cs.reverse.takeWhile (· = '\\')).length % 2 = 1

/-- An expression without its anchors. -/
structure Stripped where
  /-- Whether the expression may match anywhere, not only from the start. -/
  openStart : Bool
  body : List Char
  openEnd : Bool
deriving DecidableEq

/-- Takes a `$` off the end, unless a backslash makes it plain. -/
def stripEnd (cs : List Char) : List Char × Bool :=
  match cs.reverse with
  | '$' :: initial =>
    if endsWithEscape initial.reverse then (cs, true) else (initial.reverse, false)
  | _ => (cs, true)

/-- Takes a `^` off the start and a `$` off the end. -/
def stripAnchors (cs : List Char) : Stripped :=
  match cs with
  | '^' :: rest =>
    let (body, openEnd) := stripEnd rest
    ⟨false, body, openEnd⟩
  | _ =>
    let (body, openEnd) := stripEnd cs
    ⟨true, body, openEnd⟩

end RecordFilter.Downgrade
