/-!
# Error — what can go wrong

A text may be no regular expression, and then a fault tells why. Backends add errors of their own.
-/

namespace RecordFilter

namespace Regex

/-- Why a text is no regular expression. -/
inductive Fault
  | unclosedGroup
  | unopenedGroup
  | unclosedClass
  | nothingToRepeat
  | badCount
  | lookAround
  | badFlags
  | badGroupName
  | duplicateGroupName
  | badEscape
  | badCodePoint
  | unknownProperty
  | badClassItem
  | badRange
  /-- A construct that needs characters beyond ASCII where the flags exclude them. -/
  | needsUnicode
  | nestedTooDeep
deriving DecidableEq

/-- What is shown for a fault, as part of the message of an error. -/
def Fault.message : Fault → String
  | unclosedGroup => "unclosed group"
  | unopenedGroup => "unopened group"
  | unclosedClass => "unclosed character class"
  | nothingToRepeat => "repetition operator missing expression"
  | badCount => "invalid repetition count"
  | lookAround => "look-around is not supported"
  | badFlags => "invalid flags"
  | badGroupName => "invalid group name"
  | duplicateGroupName => "duplicate group name"
  | badEscape => "unrecognized escape sequence"
  | badCodePoint => "invalid code point"
  | unknownProperty => "unknown property"
  | badClassItem => "invalid item in character class"
  | badRange => "invalid character class range"
  | needsUnicode => "Unicode not allowed here"
  | nestedTooDeep => "expression is nested too deeply"

end Regex

/-- Why an operation gave no result. Evaluation in memory never fails; building, compiling and
detecting may. -/
inductive Error
  /-- A text is not a regular expression. -/
  | pattern (fault : Regex.Fault)
  /-- A regular expression only a backend that has them can evaluate, and this one has not. -/
  | unsupported (column source : String)
  /-- A question about the backend's capabilities failed. -/
  | probe (reason : String)
deriving DecidableEq

/-- The message of an error, which starts with the part of the work that failed. -/
def Error.message : Error → String
  | pattern fault => "Pattern error: " ++ fault.message
  | unsupported column source =>
    "Unsupported: column " ++ column ++ " needs regex /" ++ source ++
      "/ but the backend has no regex support"
  | probe reason => "Probe error: " ++ reason

end RecordFilter
