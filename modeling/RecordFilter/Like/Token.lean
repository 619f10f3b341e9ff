/-!
# Like/Token — wildcard patterns as lists of tokens

In a wildcard pattern `%` and `_` are wildcards and a backslash makes the next character plain;
`escape` writes a plain text as a pattern. A **token** is one item of a pattern: a plain character,
`_` or `%`. `tokens` reads a pattern and `render` writes one; `Matches` says which texts a list of
tokens stands for.

* `tokens_render` — what is written reads back, whatever the tokens are.
-/

namespace RecordFilter.Like

/-! ## Plain texts -/

/-- Whether a character needs a backslash to stand for itself. -/
def isSpecial (c : Char) : Bool := c = '%' || c = '_' || c = '\\'

/-- A plain character as it stands in a pattern. -/
def escapeChar (c : Char) : List Char := if isSpecial c then ['\\', c] else [c]

/-- The pattern that matches `s` alone. -/
def escape (s : String) : String := .ofList (s.toList.flatMap escapeChar)

/-- Drops the backslash of every escape; one at the very end stays. -/
def unescapeChars : List Char → List Char
  | '\\' :: c :: rest => c :: unescapeChars rest
  | c :: rest => c :: unescapeChars rest
  | [] => []

/-- The text that a pattern without wildcards stands for. -/
def unescape (pattern : String) : String := .ofList (unescapeChars pattern.toList)

/-! ## Tokens -/

/-- One item of a pattern, with its escape taken away. -/
inductive Token
  | literal (c : Char)
  /-- Any one character. -/
  | anyChar
  /-- Any run of characters. -/
  | anyRun
deriving DecidableEq

/-- The tokens of a pattern. A backslash makes the next character plain; at the very end it stands
for itself. -/
def tokens : List Char → List Token
  | [] => []
  | '\\' :: c :: rest => .literal c :: tokens rest
  | '%' :: rest => .anyRun :: tokens rest
  | '_' :: rest => .anyChar :: tokens rest
  | c :: rest => .literal c :: tokens rest

namespace Token

def isLiteral : Token → Bool
  | literal _ => true
  | _ => false

/-- The token as it stands in a pattern. -/
def written : Token → List Char
  | literal c => escapeChar c
  | anyChar => ['_']
  | anyRun => ['%']

end Token

/-- The pattern of a list of tokens. -/
def render (ts : List Token) : List Char := ts.flatMap Token.written

/-- The tokens match a text as a whole; `same` tells which characters a plain character matches. -/
def Matches (same : Char → Char → Prop) : List Token → List Char → Prop
  | [], t => t = []
  | .literal c :: ts, t => ∃ d rest, t = d :: rest ∧ same c d ∧ Matches same ts rest
  | .anyChar :: ts, t => ∃ d rest, t = d :: rest ∧ Matches same ts rest
  | .anyRun :: ts, t => ∃ run rest, t = run ++ rest ∧ Matches same ts rest

/-! ## Reading back -/

/-- A character that needs no escape is read as itself. -/
theorem tokens_cons_of_not_isSpecial {c : Char} (h : isSpecial c = false) (rest : List Char) :
    tokens (c :: rest) = .literal c :: tokens rest := by
  simp only [isSpecial, Bool.or_eq_false_iff, decide_eq_false_iff_not] at h
  rw [tokens.eq_def]
  split <;> simp_all

/-- **A written token is read back, whatever stands behind it.** -/
@[simp] theorem tokens_written_append (t : Token) (rest : List Char) :
    tokens (t.written ++ rest) = t :: tokens rest := by
  cases t with
  | literal c =>
    cases h : isSpecial c with
    | true => simp [Token.written, escapeChar, h, tokens]
    | false => simpa [Token.written, escapeChar, h] using tokens_cons_of_not_isSpecial h rest
  | anyChar => simp [Token.written, tokens]
  | anyRun => simp [Token.written, tokens]

@[simp] theorem render_cons (t : Token) (ts : List Token) :
    render (t :: ts) = t.written ++ render ts :=
  List.flatMap_cons

/-- What is written reads back. -/
@[simp] theorem tokens_render (ts : List Token) : tokens (render ts) = ts := by
  induction ts with
  | nil => rfl
  | cons t ts ih => simp [ih]

end RecordFilter.Like
