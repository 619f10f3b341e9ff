import RecordFilter.Like.Token

/-!
# Downgrade/Token — regular expressions that say no more than a wildcard pattern

Such an expression is a list of plain characters, `.` and `.*`, which are the tokens of wildcard
patterns. `tokenize` reads the body of an expression as tokens and gives up where it meets anything
else.
-/

namespace RecordFilter.Downgrade

open Like (Token)

/-- Whether a backslash before `c` makes it a plain character: ASCII punctuation but angle brackets,
which name word boundaries. -/
def isEscapedLiteral (c : Char) : Bool :=
  ('!' ≤ c && c ≤ '/' || ':' ≤ c && c ≤ '@' || '[' ≤ c && c ≤ '\x60' || '\x7b' ≤ c && c ≤ '~') &&
    c ≠ '<' && c ≠ '>'

/-- Characters that, standing alone, are more than themselves in an expression. -/
def isOperator (c : Char) : Bool :=
  ['[', '\\', ']', '(', ')', '{', '}', '*', '+', '?', '|', '^', '$'].contains c

/-- The tokens of an expression without anchors. A bracket class of one character that is no line
end is a plain character. -/
def tokenize : List Char → Option (List Token)
  | [] => some []
  | '[' :: c :: ']' :: rest => if c = '\n' then none else (tokenize rest).map (.literal c :: ·)
  | '\\' :: c :: rest =>
    if isEscapedLiteral c then (tokenize rest).map (.literal c :: ·) else none
  | '.' :: '*' :: rest => (tokenize rest).map (.anyRun :: ·)
  | '.' :: rest => (tokenize rest).map (.anyChar :: ·)
  | c :: rest => if isOperator c then none else (tokenize rest).map (.literal c :: ·)

/-- Several runs of any characters in a row are one. -/
def collapse : List Token → List Token
  | .anyRun :: .anyRun :: rest => collapse (.anyRun :: rest)
  | t :: rest => t :: collapse rest
  | [] => []

end RecordFilter.Downgrade
