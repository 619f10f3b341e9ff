import RecordFilter.Downgrade.Scan
import RecordFilter.Downgrade.Token

/-!
# Downgrade/Conversion — regular expressions as equalities and wildcard patterns

An expression that is a plain text between anchors becomes an equality, one made of plain
characters, `.` and `.*` a wildcard pattern; any other stays as it is. An open end becomes a run of
any characters.
-/

namespace RecordFilter

/-- What an expression becomes. -/
inductive Mode
  | equals
  | like
  | native
deriving DecidableEq

def Mode.name : Mode → String
  | equals => "equals"
  | like => "like"
  | native => "native"

structure Conversion where
  mode : Mode
  caseSensitive : Bool
  /-- The wildcard pattern; without wildcards for an equality, and the expression itself where it
  stays. -/
  source : String
deriving DecidableEq

namespace Conversion

/-- The source without escapes, for use as a plain text. -/
def literal (c : Conversion) : String := Like.unescape c.source

end Conversion

namespace Downgrade

open Like (Token)

/-- The tokens of a whole expression, its open ends included; nothing if it says more than a
wildcard pattern can. -/
def tokens? (cs : List Char) : Option (List Token) :=
  if hasUnconvertibleRepetition cs || hasWideClass cs then none
  else
    let stripped := stripAnchors cs
    (tokenize stripped.body).map fun body =>
      collapse ((if stripped.openStart then [.anyRun] else []) ++ body ++
        if stripped.openEnd then [.anyRun] else [])

/-- The simplest shape that matches the same texts as the expression, as far as they have no line
ends, which wildcards match and `.` does not. -/
def convert (source : String) (ignoreCase : Bool) : Conversion :=
  match tokens? source.toList with
  | some tokens =>
    { mode := if tokens.all Token.isLiteral then .equals else .like
      caseSensitive := !ignoreCase
      source := .ofList (Like.render tokens) }
  | none => { mode := .native, caseSensitive := !ignoreCase, source }

/-! ## One expression of each mode -/

example : convert "^a\\.b$" false = ⟨.equals, true, "a.b"⟩ := by decide

example : convert "a.%" true = ⟨.like, false, "%a_\\%%"⟩ := by decide

example : convert "^a+$" false = ⟨.native, true, "^a+$"⟩ := by decide

end Downgrade

end RecordFilter
