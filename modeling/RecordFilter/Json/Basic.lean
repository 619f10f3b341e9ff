import RecordFilter.Number.Rounding

/-!
# Json — trees of the data format

Numbers are integers or doubles. A tree that was read may hold `unreadable` parts: strings and
numbers that follow the grammar but denote nothing, such as half a surrogate pair or a number beyond
all doubles. They do no harm where nobody asks for them.
-/

namespace RecordFilter

/-- A tree of the data format. Members of an object stand in the order in which they are written. -/
inductive Json
  | null
  | bool (b : Bool)
  | int (n : Int)
  | float (x : Double)
  | str (s : String)
  | arr (items : List Json)
  | obj (members : List (String × Json))
  | unreadable

namespace Json

/-- A double; the format has no others than finite ones, and `null` stands for those. -/
def ofDouble (x : Double) : Json := if x.isFinite then float x else null

/-- A part that is left out counts as null. -/
def ofOption : Option Json → Json := fun j => j.getD null

/-- Puts the members of an object in the order of their keys. -/
def sortMembers (members : List (String × Json)) : List (String × Json) :=
  members.mergeSort fun a b => a.1 ≤ b.1

mutual

/-- The same tree with the members of every object in the order of their keys. -/
def sortKeys : Json → Json
  | arr items => arr (sortItems items)
  | obj members => obj (sortMembers (sortValues members))
  | j => j

def sortItems : List Json → List Json
  | [] => []
  | j :: rest => sortKeys j :: sortItems rest

def sortValues : List (String × Json) → List (String × Json)
  | [] => []
  | (key, j) :: rest => (key, sortKeys j) :: sortValues rest

end

end Json

end RecordFilter
