import RecordFilter.Regex.CharClass
import RecordFilter.Regex.Property.Age
import RecordFilter.Regex.Property.Binary
import RecordFilter.Regex.Property.Script
import RecordFilter.Regex.Property.Segmentation

/-!
# Regex/Property — character classes by the name of a property

A name is read loosely: case, spaces, hyphens, underscores and a leading `is` do not matter. Alone
it names a yes-or-no property, a general category or a script, looked for in this order. Before a
value it names what the value is one of: a category, a script, a script with its extensions, an age,
or a part played where texts are divided.
-/

namespace RecordFilter.Regex.CharClass

/-- A property name without what does not matter in it. A leading `is` stays where dropping it would
leave the single letter `c`. -/
def normalName (name : List Char) : String :=
  let keep := fun cs : List Char =>
    (cs.filter fun c => c ≠ ' ' ∧ c ≠ '_' ∧ c ≠ '-' ∧ c.toNat < 128).map Char.toLower
  match name.map Char.toLower with
  | 'i' :: 's' :: _ =>
    let rest := keep (name.drop 2)
    if rest = ['c'] then "isc" else .ofList rest
  | _ => .ofList (keep name)

/-- Looks a name up in a table, where an entry may have several names. -/
def find? {α : Type} (name : String) (table : List (List String × α)) : Option α :=
  (table.find? fun entry => entry.1.contains name).map Prod.snd

/-- The class of the characters that are in one of the tables. -/
def ofTables (ts : List Text.RangeTable) : CharClass := unions (ts.map table)

def ofCategory? (name : String) : Option CharClass :=
  match name with
  | "any" => some any
  | "assigned" => some (compl (table Category.unassigned))
  | "ascii" => some (range '\x00' '\x7f')
  | _ => (find? name Category.groups).map ofTables

def ofScript? (name : String) : Option CharClass := (find? name Property.scripts).map table

/-- The characters that are used with a script. Those without extensions are used with their own
script alone. -/
def ofScriptExtension? (name : String) : Option CharClass := do
  let (names, own) ← Property.scripts.find? fun entry => entry.1.contains name
  let extended := Property.extensions.filter fun entry => entry.1.any names.contains
  return union (diff (table own) (ofTables (Property.extensions.map Prod.snd)))
    (ofTables (extended.map Prod.snd))

/-- The tables of an ascending list, up to the one of the name given. -/
def tablesUpTo? (name : String) :
    List (List String × Text.RangeTable) → Option (List Text.RangeTable)
  | [] => none
  | (names, t) :: rest =>
    if names.contains name then some [t] else (tablesUpTo? name rest).map (t :: ·)

/-- The characters that an edition knows, be they new in it or older. -/
def ofAge? (name : String) : Option CharClass := (tablesUpTo? name Property.ages).map ofTables

/-- Names that a property and a general category share; they mean the category. -/
def sharedNames : List String := ["cf", "sc", "lc"]

/-- The class of a property name that stands alone. -/
def ofName? (name : List Char) : Option CharClass :=
  let n := normalName name
  let binary := if sharedNames.contains n then none else (find? n Property.binary).map table
  binary <|> ofCategory? n <|> ofScript? n

/-- The class of a property with a value. -/
def ofNameValue? (name value : List Char) : Option CharClass :=
  let v := normalName value
  match normalName name with
  | "gc" | "generalcategory" => ofCategory? v
  | "sc" | "script" => ofScript? v
  | "scx" | "scriptextensions" => ofScriptExtension? v
  | "age" => ofAge? v
  | "gcb" | "graphemeclusterbreak" => (find? v Property.graphemeClusterBreak).map table
  | "wb" | "wordbreak" => (find? v Property.wordBreak).map table
  | "sb" | "sentencebreak" => (find? v Property.sentenceBreak).map table
  | _ => none

end RecordFilter.Regex.CharClass
