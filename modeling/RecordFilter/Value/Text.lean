import RecordFilter.Number.Layout
import RecordFilter.Text.Property
import RecordFilter.Value.Basic

/-!
# Value/Text — values as plain text and as diagnostic text

Plain text is what patterns are matched against; diagnostic text also tells the kind, and has texts
between double quotes. There control characters, quotes and backslashes are escaped by one letter
where a letter is customary; every other character without a visible form of its own is written by
its code point.
-/

namespace RecordFilter

namespace Text

/-- One character between double quotes. -/
def quoteChar (c : Char) : List Char :=
  if c = '\x00' then ['\\', '0']
  else if c = '\t' then ['\\', 't']
  else if c = '\r' then ['\\', 'r']
  else if c = '\n' then ['\\', 'n']
  else if c = '"' ∨ c = '\\' then ['\\', c]
  else if Property.graphemeExtend.contains c || Property.invisible.contains c then
    ['\\', 'u', '{'] ++ hexDigits c.toNat ++ ['}']
  else [c]

/-- The text between double quotes, with escapes. -/
def quoted (s : String) : String := .ofList ('"' :: s.toList.flatMap quoteChar ++ ['"'])

end Text

/-- Numbers in plain text never have an exponent, and a whole number shows no point. -/
def Layout.plain : Layout where
  tie := .up
  positional := none
  pointZero := false
  plusSign := false
  nan := "NaN"
  infinity := "inf"

/-- Numbers in diagnostic text always show a point or an exponent, the latter from `10^16` on and
below `10^-4`. -/
def Layout.diagnostic : Layout where
  tie := .up
  positional := some (-4, 15)
  pointZero := true
  plusSign := false
  nan := "NaN"
  infinity := "inf"

namespace Value

/-- The plain text of a value, which patterns are matched against. Texts stand for themselves. -/
def text : Value → String
  | null => "NULL"
  | bool b => if b then "true" else "false"
  | int n => toString n.toInt
  | float x => Layout.plain.text x
  | str s => s

/-- The value with its kind, as the diagnostics of operators show it. -/
def diagnostic : Value → String
  | null => "Null"
  | bool b => "Bool(" ++ (if b then "true" else "false") ++ ")"
  | int n => "Int(" ++ toString n.toInt ++ ")"
  | float x => "Float(" ++ Layout.diagnostic.text x ++ ")"
  | str s => "Str(" ++ Text.quoted s ++ ")"

end Value

/-! ## Ten to the sixteenth, and the negative zero -/

example : Layout.plain.text ⟨0x4341c37937e08000⟩ = "10000000000000000" := by decide +kernel

example : Layout.diagnostic.text ⟨0x4341c37937e08000⟩ = "1e16" := by decide +kernel

example : Layout.plain.text ⟨0x8000000000000000⟩ = "-0" := by decide

example : Layout.diagnostic.text ⟨0x8000000000000000⟩ = "-0.0" := by decide

end RecordFilter
