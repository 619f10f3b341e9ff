import RecordFilter.Json.Basic
import RecordFilter.Number.Layout
import RecordFilter.Text.Basic

/-!
# Json/Text — trees as text

The text is compact: no blanks between tokens. Of the characters in a string only quotes,
backslashes and control characters are escaped.
-/

namespace RecordFilter

/-- Doubles always show a point or an exponent, the latter with a sign, from `10^16` on and below
`10^-5`. -/
def Layout.json : Layout where
  tie := .even
  positional := some (-5, 15)
  pointZero := true
  plusSign := true
  nan := "null"
  infinity := "null"

namespace Json

/-- A character between quotes. Control characters without a letter of their own are written by
their code. -/
def escapeChar (c : Char) : List Char :=
  if c = '"' ∨ c = '\\' then ['\\', c]
  else if c = '\x08' then ['\\', 'b']
  else if c = '\t' then ['\\', 't']
  else if c = '\n' then ['\\', 'n']
  else if c = '\x0c' then ['\\', 'f']
  else if c = '\r' then ['\\', 'r']
  else if c.toNat < 32 then '\\' :: 'u' :: Text.hexPadded 4 c.toNat
  else [c]

/-- A string in quotes; `string?` reads it back. -/
def stringText (s : String) : String := .ofList ('"' :: s.toList.flatMap escapeChar ++ ['"'])

mutual

/-- The text of a tree. An unreadable part has no text and is written as `null`. -/
def text : Json → String
  | null => "null"
  | bool b => if b then "true" else "false"
  | int n => toString n
  | float x => Layout.json.text x
  | str s => stringText s
  | arr items => "[" ++ ",".intercalate (itemTexts items) ++ "]"
  | obj members => "\x7b" ++ ",".intercalate (memberTexts members) ++ "\x7d"
  | unreadable => "null"

/-- The texts of the items of an array. -/
def itemTexts : List Json → List String
  | [] => []
  | j :: rest => text j :: itemTexts rest

def memberTexts : List (String × Json) → List String
  | [] => []
  | (key, j) :: rest => (stringText key ++ ":" ++ text j) :: memberTexts rest

end

end Json

/-! ## The ends of the span without exponents -/

example : Layout.json.text ⟨0x433fffffffffffff⟩ = "9007199254740991.0" := by decide +kernel

example : Layout.json.text ⟨0x4341c37937e08000⟩ = "1e+16" := by decide +kernel

example : Layout.json.text ⟨0x3e7ad7f29abcaf48⟩ = "1e-7" := by decide +kernel

example : Json.stringText "\x1f\"" = "\"\\u001f\\\"\"" := by decide

end RecordFilter
