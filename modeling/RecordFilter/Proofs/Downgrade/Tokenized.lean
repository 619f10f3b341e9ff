import RecordFilter.Proofs.Downgrade.Scan

/-!
# Proofs/Downgrade/Tokenized — the texts that have tokens

`Tokenized cs ts` says token by token how a text with tokens looks (`tokenize_eq_some_iff`). The
parser of expressions reads the same tokens, as long as it takes every bracket for what it looks
like (`readsAs_of_tokenized`): `[^]`, `[\]` and `[[]` are no classes to it but the starts of longer
ones.
-/

namespace RecordFilter.Downgrade

open Like (Token)

/-- How a text is spelled that has tokens. -/
inductive Tokenized : List Char → List Token → Prop
  | nil : Tokenized [] []
  | bracket {c rest ts} : c ≠ '\n' → Tokenized rest ts →
      Tokenized ('[' :: c :: ']' :: rest) (.literal c :: ts)
  | escape {c rest ts} : isEscapedLiteral c = true → Tokenized rest ts →
      Tokenized ('\\' :: c :: rest) (.literal c :: ts)
  | dotStar {rest ts} : Tokenized rest ts → Tokenized ('.' :: '*' :: rest) (.anyRun :: ts)
  | dot {rest ts} : Tokenized rest ts → Tokenized ('.' :: rest) (.anyChar :: ts)
  | plain {c rest ts} : isOperator c = false → c ≠ '.' → Tokenized rest ts →
      Tokenized (c :: rest) (.literal c :: ts)

variable {c : Char} {cs rest : List Char} {ts : List Token}

/-- **A text with tokens is spelled token by token**, as the recursion of the tokenizer has it. -/
theorem tokenized_of_tokenize (h : tokenize cs = some ts) : Tokenized cs ts := by
  induction cs using tokenize.induct generalizing ts with
  | case1 =>
    obtain rfl := Option.some.inj h
    exact .nil
  | case2 rest => simp [tokenize] at h
  | case3 c rest hc ih =>
    rw [tokenize, if_neg hc, Option.map_eq_some_iff] at h
    obtain ⟨us, hus, rfl⟩ := h
    exact .bracket hc (ih hus)
  | case4 c rest hc ih =>
    rw [tokenize, if_pos hc, Option.map_eq_some_iff] at h
    obtain ⟨us, hus, rfl⟩ := h
    exact .escape hc (ih hus)
  | case5 c rest hc => simp [tokenize, hc] at h
  | case6 rest ih =>
    rw [tokenize, Option.map_eq_some_iff] at h
    obtain ⟨us, hus, rfl⟩ := h
    exact .dotStar (ih hus)
  | case7 rest hstar ih =>
    rw [tokenize.eq_5 rest hstar, Option.map_eq_some_iff] at h
    obtain ⟨us, hus, rfl⟩ := h
    exact .dot (ih hus)
  | case8 c rest hbracket hescape hstar hdot hc =>
    rw [tokenize.eq_6 c rest hbracket hescape hstar hdot, if_pos hc] at h
    cases h
  | case9 c rest hbracket hescape hstar hdot hc ih =>
    rw [tokenize.eq_6 c rest hbracket hescape hstar hdot, if_neg hc, Option.map_eq_some_iff] at h
    obtain ⟨us, hus, rfl⟩ := h
    exact .plain (by simpa using hc) hdot (ih hus)

/-- What a tokenized text starts with is no operator. -/
theorem Tokenized.head?_ne (h : Tokenized cs ts) (hc : isOperator c = true)
    (hbracket : c ≠ '[') (hescape : c ≠ '\\') : cs.head? ≠ some c := by
  have hdot : c ≠ '.' := fun hdot => absurd (hdot ▸ hc) (by decide)
  cases h with
  | nil => simp
  | bracket _ _ => simpa using hbracket.symm
  | escape _ _ => simpa using hescape.symm
  | dotStar _ => simpa using hdot.symm
  | dot _ => simpa using hdot.symm
  | plain hplain _ _ =>
    intro heq
    rw [← Option.some.inj heq, hplain] at hc
    cases hc

/-! ## Brackets -/

/-- The character makes brackets around it more than a class of one character. -/
def opensMore (c : Char) : Bool := c = '^' || c = '\\' || c = '['

/-- Whether all brackets around one character are classes of that character. -/
def plainBrackets : List Char → Bool
  | '[' :: c :: ']' :: rest => !opensMore c && plainBrackets rest
  | '\\' :: _ :: rest => plainBrackets rest
  | _ :: rest => plainBrackets rest
  | [] => true

/-- The three characters that open a longer class if they stand alone between brackets. -/
theorem opensMore_eq_false_iff : opensMore c = false ↔ c ≠ '^' ∧ c ≠ '\\' ∧ c ≠ '[' := by
  simp [opensMore, and_assoc]

theorem plainBrackets_cons (hbracket : c ≠ '[') (hescape : c ≠ '\\') (rest : List Char) :
    plainBrackets (c :: rest) = plainBrackets rest :=
  plainBrackets.eq_3 c rest (fun _ _ h _ => hbracket h) (fun _ _ h _ => hescape h)

/-- Without brackets there is none that could be taken for something else. -/
theorem plainBrackets_of_not_mem : ∀ {cs : List Char}, '[' ∉ cs → plainBrackets cs = true := by
  intro cs h
  induction cs using plainBrackets.induct with
  | case1 c rest ih => simp at h
  | case2 c rest ih =>
    rw [plainBrackets]
    exact ih fun hr => h (by simp [hr])
  | case3 c rest hbracket hescape ih =>
    rw [plainBrackets.eq_3 c rest hbracket hescape]
    exact ih fun hr => h (by simp [hr])
  | case4 => rfl

/-- A plain character is none of the operators. -/
theorem ne_of_not_isOperator {d : Char} (hc : isOperator c = false) (hd : isOperator d = true) :
    c ≠ d := fun h => by
  rw [h, hd] at hc
  cases hc

/-! ## Tokens in expressions -/

/-- Only ASCII characters are read as themselves behind a backslash. -/
theorem toNat_lt_of_isEscapedLiteral (hc : isEscapedLiteral c = true) : c.toNat < 128 := by
  have hle : c ≤ '~' := by
    simp only [isEscapedLiteral, Bool.and_eq_true, Bool.or_eq_true, decide_eq_true_eq] at hc
    obtain ⟨⟨((h | h) | h) | h, -⟩, -⟩ := hc <;> exact Char.le_trans h.2 (by decide)
  exact Nat.lt_of_le_of_lt (UInt32.le_iff_toNat_le.mp hle) (by decide)

/-- The parser of expressions reads the same escapes. -/
theorem isEscapable_of_isEscapedLiteral (hc : isEscapedLiteral c = true) :
    Regex.Reader.isEscapable c = true := by
  have h : ∀ n < 128, isEscapedLiteral (.ofNat n) = true →
      Regex.Reader.isEscapable (.ofNat n) = true := by decide
  have hc' := h c.toNat (toNat_lt_of_isEscapedLiteral hc)
  rw [Char.ofNat_toNat] at hc'
  exact hc' hc

/-- A plain character starts no construct of expressions. -/
theorem isConstruct_of_not_isOperator (hc : isOperator c = false) (hdot : c ≠ '.') :
    Regex.State.isConstruct c = false :=
  Regex.State.isConstruct_eq_false (p := fun d => isOperator d || d == '.') (by decide)
    (by simp [hc, hdot])

/-- **The parser reads the tokens of a text whose brackets are plain.** -/
theorem readsAs_of_tokenized {f : Regex.Flags} (hf : f.Plain) (h : Tokenized cs ts)
    (hplain : plainBrackets cs = true) : Regex.ReadsAs f cs ts := by
  have hnext : ∀ {rest : List Char} {us : List Token}, Tokenized rest us → rest.head? ≠ some '?' :=
    fun h => h.head?_ne (by decide) (by decide) (by decide)
  induction h with
  | nil => exact .nil
  | bracket hc h ih =>
    rw [plainBrackets, Bool.and_eq_true, Bool.not_eq_true'] at hplain
    exact (Regex.ReadsAs.bracket hf (opensMore_eq_false_iff.mp hplain.1)).append
      (ih hplain.2) (hnext h)
  | escape hc h ih =>
    rw [plainBrackets] at hplain
    exact (Regex.ReadsAs.escape hf (isEscapable_of_isEscapedLiteral hc)).append (ih hplain)
      (hnext h)
  | dotStar h ih =>
    rw [plainBrackets_cons (by decide) (by decide), plainBrackets_cons (by decide) (by decide)]
      at hplain
    exact (Regex.ReadsAs.dotStar hf).append (ih hplain) (hnext h)
  | dot h ih =>
    rw [plainBrackets_cons (by decide) (by decide)] at hplain
    exact (Regex.ReadsAs.dot hf).append (ih hplain) (hnext h)
  | plain hc hdot h ih =>
    rw [plainBrackets_cons (ne_of_not_isOperator hc rfl) (ne_of_not_isOperator hc rfl)] at hplain
    exact (Regex.ReadsAs.literal hf (isConstruct_of_not_isOperator hc hdot)).append (ih hplain)
      (hnext h)

end RecordFilter.Downgrade
