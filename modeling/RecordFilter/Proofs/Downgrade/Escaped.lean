import RecordFilter.Proofs.Downgrade.Equality
import RecordFilter.Proofs.Fragment.Reading
import RecordFilter.Proofs.Fragment.Scope

/-!
# Proofs/Downgrade/Escaped — expressions that match one text

Escaping a text writes its characters as tokens into an expression, and these are read again
(`tokenize_inRegex`); the anchors around them are told from the text, whatever it ends in
(`stripAnchors_anchoredText`). But the scans that come before look at the characters of the
expression and not at its tokens. They take an escaped star for a repetition, and escaped brackets
for a class (`Mistaken`). All other texts are converted to their own pattern
(`convert_anchoredEscape`).
-/

namespace RecordFilter.Downgrade

open Regex (anchoredText)
open Like (Token)

variable {c d : Char} {a b cs rest body s tail pre : List Char} {ts : List Token} {os oe : Bool}

/-! ## Anchors around tokens -/

/-- The text ends in no open escape, and in no dollar that is not escaped: an anchor behind it can
be told from it. -/
structure Closed (cs : List Char) : Prop where
  endsWithEscape_eq : endsWithEscape cs = false
  escaped_of_dollar : ∀ init, cs = init ++ ['$'] → endsWithEscape init = true

theorem Closed.nil : Closed [] where
  endsWithEscape_eq := rfl
  escaped_of_dollar init h := by simpa using congrArg List.length h

/-- A last character that is neither a backslash nor a dollar closes the text. -/
theorem Closed.concat (cs : List Char) (hescape : c ≠ '\\') (hdollar : c ≠ '$') :
    Closed (cs ++ [c]) where
  endsWithEscape_eq := by rw [endsWithEscape_concat, decide_eq_false hescape, Bool.false_and]
  escaped_of_dollar init h := absurd (List.append_inj_right' h rfl) (by simpa using hdollar)

/-- An escape closes itself, and that of a dollar is no anchor. -/
theorem Closed.escape (c : Char) : Closed ['\\', c] where
  endsWithEscape_eq := (endsWithEscape_concat ['\\'] c).trans (Bool.and_false _)
  escaped_of_dollar init h := by
    have htext : ['\\'] ++ [c] = init ++ ['$'] := h
    rw [← List.append_inj_left' htext rfl]
    rfl

/-- Closed texts may follow one another. -/
theorem Closed.append (ha : Closed a) (hb : Closed b) : Closed (a ++ b) where
  endsWithEscape_eq := (endsWithEscape_append ha.endsWithEscape_eq b).trans hb.endsWithEscape_eq
  escaped_of_dollar init h := by
    rcases List.eq_nil_or_concat' b with rfl | ⟨b, d, rfl⟩
    · exact ha.escaped_of_dollar init (by rw [← h, List.append_nil])
    · rw [← List.append_assoc] at h
      obtain ⟨rfl, hd⟩ := List.append_inj' h rfl
      rw [endsWithEscape_append ha.endsWithEscape_eq]
      exact hb.escaped_of_dollar b (congrArg (b ++ ·) hd)

/-- **A text with tokens is closed**, so an anchor behind it is told. -/
theorem Tokenized.closed (h : Tokenized cs ts) : Closed cs := by
  induction h with
  | nil => exact .nil
  | @bracket c _ _ _ _ ih => exact (Closed.concat ['[', c] (by decide) (by decide)).append ih
  | @escape c _ _ _ _ ih => exact (Closed.escape c).append ih
  | dotStar _ ih => exact (Closed.concat ['.'] (by decide) (by decide)).append ih
  | dot _ ih => exact (Closed.concat [] (by decide) (by decide)).append ih
  | plain hc _ _ ih =>
    exact (Closed.concat [] (ne_of_not_isOperator hc rfl) (ne_of_not_isOperator hc rfl)).append ih

/-- **Anchors around a text with tokens are the ones that are stripped.** -/
theorem Tokenized.stripAnchors_anchoredText (h : Tokenized body ts) (os oe : Bool) :
    stripAnchors (anchoredText os oe body) = ⟨os, body, oe⟩ := by
  have hend : stripEnd (body ++ if oe then [] else ['$']) = (body, oe) := by
    cases oe with
    | true =>
      rw [if_pos rfl, List.append_nil]
      exact stripEnd_of_escaped h.closed.escaped_of_dollar
    | false => exact stripEnd_concat h.closed.endsWithEscape_eq
  cases os with
  | false =>
    have hbody : stripAnchors (anchoredText false oe body) =
        ⟨false, (stripEnd (body ++ if oe then [] else ['$'])).1,
          (stripEnd (body ++ if oe then [] else ['$'])).2⟩ := rfl
    rw [hbody, hend]
  | true =>
    have hhead : (anchoredText true oe body).head? ≠ some '^' :=
      h.head?_append_closing_ne rfl (by decide) (by decide) (by decide)
    have hbody : anchoredText true oe body = body ++ if oe then [] else ['$'] := rfl
    rw [stripAnchors_other hhead, hbody, hend]

/-! ## Tokens written and read -/

/-- Every character that escaping puts a backslash before is read as itself behind one. -/
theorem isEscapedLiteral_of_isMeta (hc : Regex.Reader.isMeta c = true) :
    isEscapedLiteral c = true := by
  have h : ['\\', '.', '+', '*', '?', '(', ')', '|', '[', ']', '{', '}', '^', '$', '#', '&',
      '-', '~'].all isEscapedLiteral = true := by decide
  exact List.all_eq_true.mp h c (List.contains_iff_mem.mp hc)

/-- Escaping puts a backslash before every operator of the tokenizer. -/
theorem isMeta_of_isOperator (hc : isOperator c = true) : Regex.Reader.isMeta c = true := by
  have h : ['[', '\\', ']', '(', ')', '{', '}', '*', '+', '?', '|', '^', '$'].all
      Regex.Reader.isMeta = true := by decide
  exact List.all_eq_true.mp h c (List.contains_iff_mem.mp hc)

/-- A plain character is a token of its own, whatever follows. -/
theorem tokenize_cons (hc : isOperator c = false) (hdot : c ≠ '.') (rest : List Char) :
    tokenize (c :: rest) = (tokenize rest).map (.literal c :: ·) := by
  have hne : ∀ d, isOperator d = true → c ≠ d := fun _ hd => ne_of_not_isOperator hc hd
  rw [tokenize.eq_6 c rest (fun _ _ h _ => hne '[' rfl h) (fun _ _ h _ => hne '\\' rfl h)
    (fun _ h _ => hdot h) hdot, if_neg (by rw [hc]; decide)]

/-- A point is a wildcard for one character unless a star follows. -/
theorem tokenize_dot_cons (h : rest.head? ≠ some '*') :
    tokenize ('.' :: rest) = (tokenize rest).map (.anyChar :: ·) :=
  tokenize.eq_5 rest fun _ heq => h (heq ▸ rfl)

/-- **Tokens written into an expression are read again.** -/
@[simp] theorem tokenize_inRegex : ∀ ts : List Token, tokenize (ts.flatMap Token.inRegex) = some ts
  | [] => rfl
  | .literal c :: ts => by
      rw [List.flatMap_cons, Token.inRegex, Regex.escapeChar]
      split
      · next hc =>
        simp [tokenize, isEscapedLiteral_of_isMeta hc, tokenize_inRegex ts]
      · next hc =>
        have hoperator : isOperator c = false := by
          rw [← Bool.not_eq_true]
          exact fun h => hc (isMeta_of_isOperator h)
        simp [tokenize_cons hoperator fun h => hc (h ▸ rfl), tokenize_inRegex ts]
  | .anyChar :: ts => by
      rw [List.flatMap_cons, Token.inRegex, List.singleton_append,
        tokenize_dot_cons (Like.head?_inRegex_ne rfl (by decide) (by decide) ts),
        tokenize_inRegex ts]
      rfl
  | .anyRun :: ts => by
      simp [Token.inRegex, tokenize, tokenize_inRegex ts]

/-- The first character matters to the scan for repetitions only if a star follows it. -/
theorem hasUnconvertibleRepetition_cons (h : rest.head? ≠ some '*') (c : Char) :
    hasUnconvertibleRepetition (c :: rest) = hasUnconvertibleRepetition rest := by
  cases rest with
  | nil => rfl
  | cons d rest =>
    have hd : d ≠ '*' := fun hd => h (congrArg some hd)
    rw [hasUnconvertibleRepetition, decide_eq_false hd, Bool.false_and, Bool.false_or]

theorem head?_inRegex_append_closing_ne (oe : Bool) (ts : List Token) :
    (ts.flatMap Token.inRegex ++ closing oe).head? ≠ some '*' :=
  (tokenized_of_tokenize (tokenize_inRegex ts)).head?_append_closing_ne rfl (by decide) (by decide)
    (by decide)

/-- Among written tokens, a star is taken for a repetition exactly if it is a plain character: then
a backslash stands before it. -/
theorem hasUnconvertibleRepetition_inRegex (oe : Bool) : ∀ ts : List Token,
    hasUnconvertibleRepetition (ts.flatMap Token.inRegex ++ closing oe) = true ↔ .literal '*' ∈ ts
  | [] => by cases oe <;> decide
  | tok :: ts => by
      have hnext := hasUnconvertibleRepetition_cons (head?_inRegex_append_closing_ne oe ts)
      have hrest := hasUnconvertibleRepetition_inRegex oe ts
      rw [List.flatMap_cons, List.append_assoc, List.mem_cons, ← hrest]
      cases tok with
      | literal c =>
        rw [Token.inRegex, Regex.escapeChar, Token.literal.injEq]
        split
        · have hescape : decide ('\\' ≠ '.') = true := rfl
          rw [List.cons_append, List.singleton_append, hasUnconvertibleRepetition, hnext, hescape,
            Bool.and_true, Bool.or_eq_true, decide_eq_true_eq, eq_comm]
        · next hc =>
          have hstar : '*' ≠ c := fun h => hc (h ▸ rfl)
          rw [List.singleton_append, hnext, or_iff_right hstar]
      | anyChar => exact (Bool.eq_iff_iff.mp (hnext '.')).trans (or_iff_right (by simp)).symm
      | anyRun => exact (Bool.eq_iff_iff.mp (hnext '*')).trans (or_iff_right (by simp)).symm

/-- Anchors make no difference to the scan for repetitions. -/
theorem hasUnconvertibleRepetition_anchoredText (os oe : Bool) (ts : List Token) :
    hasUnconvertibleRepetition (anchoredText os oe (ts.flatMap Token.inRegex)) = true ↔
      .literal '*' ∈ ts := by
  rw [← hasUnconvertibleRepetition_inRegex oe]
  cases os with
  | true => exact Iff.rfl
  | false =>
    exact Bool.eq_iff_iff.mp
      (hasUnconvertibleRepetition_cons (head?_inRegex_append_closing_ne oe ts) '^')

/-- An expression whose tokens the scans let through is converted to them. -/
theorem converts_of_tokenize {source : String} (hsource : source.toList = anchoredText os oe body)
    (htokens : tokenize body = some ts)
    (hstar : hasUnconvertibleRepetition source.toList = false)
    (hwide : hasWideClass source.toList = false) : Converts source os oe body ts where
  text_eq := hsource
  tokenized := tokenized_of_tokenize htokens
  narrow := narrow_of_not_hasWideClass (hsource ▸ hwide)
  tokens_eq := by
    have hstrip := (tokenized_of_tokenize htokens).stripAnchors_anchoredText os oe
    rw [tokens?, hstar, hwide, hsource, hstrip]
    simp only [htokens]
    rfl

/-! ## Escaped texts -/

/-- Escaping a text writes its characters as plain tokens. -/
theorem flatMap_escapeChar_eq (s : List Char) :
    s.flatMap Regex.escapeChar = (s.map Token.literal).flatMap Token.inRegex := by
  rw [List.flatMap_map]
  rfl

/-- An escaped text has the characters of the text, and backslashes. -/
theorem mem_flatMap_escapeChar_iff (hd : d ≠ '\\') :
    d ∈ s.flatMap Regex.escapeChar ↔ d ∈ s := by
  have hchar : ∀ c, d ∈ Regex.escapeChar c ↔ d = c := by
    intro c
    rw [Regex.escapeChar]
    split <;> simp [hd]
  rw [List.mem_flatMap]
  simp only [hchar]
  exact exists_eq_right'

/-- A character of expressions that stands in an escaped character is that character, behind its
backslash. -/
theorem eq_of_escapeChar_eq (hd : Regex.Reader.isMeta d = true) (hne : d ≠ '\\') {w : List Char}
    (h : Regex.escapeChar c = pre ++ d :: w) : c = d ∧ pre = ['\\'] ∧ w = [] := by
  rw [Regex.escapeChar] at h
  split at h
  · rcases pre with _ | ⟨x, _ | ⟨y, pre⟩⟩
    · exact absurd (List.cons.inj h).1.symm hne
    · rw [List.singleton_append, List.cons.injEq, List.cons.injEq] at h
      exact ⟨h.2.1, congrArg (fun y => [y]) h.1.symm, h.2.2.symm⟩
    · simp at h
  · next hc =>
    rcases pre with _ | ⟨x, pre⟩
    · exact absurd ((List.cons.inj h).1 ▸ hd) hc
    · simp at h

/-- **Where an escaped text has a character of expressions, so has the text**, and a backslash
stands before it. -/
theorem exists_of_flatMap_escapeChar (hd : Regex.Reader.isMeta d = true) (hne : d ≠ '\\')
    (htail : d ∉ tail) : ∀ {s pre : List Char},
      s.flatMap Regex.escapeChar ++ tail = pre ++ d :: rest →
      ∃ a b, s = a ++ d :: b ∧ pre = a.flatMap Regex.escapeChar ++ ['\\'] ∧
        rest = b.flatMap Regex.escapeChar ++ tail
  | [], pre, h => by
      have htext : tail = pre ++ d :: rest := h
      exact absurd (htext ▸ List.mem_append_right pre List.mem_cons_self) htail
  | c :: s, pre, h => by
      have hnext : ∀ pre', s.flatMap Regex.escapeChar ++ tail = pre' ++ d :: rest →
          pre = Regex.escapeChar c ++ pre' →
          ∃ a b, c :: s = a ++ d :: b ∧ pre = a.flatMap Regex.escapeChar ++ ['\\'] ∧
            rest = b.flatMap Regex.escapeChar ++ tail := by
        intro pre' h' hpre
        obtain ⟨a, b, rfl, rfl, rfl⟩ := exists_of_flatMap_escapeChar hd hne htail h'
        refine ⟨c :: a, b, rfl, ?_, rfl⟩
        rw [hpre, List.flatMap_cons, List.append_assoc]
      rw [List.flatMap_cons, List.append_assoc] at h
      rcases List.append_eq_append_iff.mp h with ⟨pre', hpre, h'⟩ | ⟨w, hc, h'⟩
      · exact hnext pre' h' hpre
      · rcases w with _ | ⟨x, w⟩
        · exact hnext [] h'.symm (by rw [hc, List.append_nil, List.append_nil])
        · obtain ⟨rfl, hrest⟩ := List.cons_eq_cons.mp h'
          obtain ⟨rfl, rfl, rfl⟩ := eq_of_escapeChar_eq hd hne hc
          exact ⟨[], s, rfl, rfl, hrest⟩

/-- The scans take an escaped text for more than it is: it has a star, which looks like a
repetition of the backslash before it, or brackets on one line with something between them, which
look like a class of that and a backslash. -/
def Mistaken (s : List Char) : Prop :=
  '*' ∈ s ∨ ∃ a b c, s = a ++ '[' :: (b ++ ']' :: c) ∧ b ≠ [] ∧ '\n' ∉ b

theorem hasUnconvertibleRepetition_escaped (os oe : Bool) (s : List Char) :
    hasUnconvertibleRepetition (anchoredText os oe (s.flatMap Regex.escapeChar)) = true ↔
      '*' ∈ s := by
  rw [flatMap_escapeChar_eq, hasUnconvertibleRepetition_anchoredText]
  simp

/-- In an escaped text the scan for classes finds two brackets of the text on one line, with
something between them. -/
theorem hasWideClass_escaped (os oe : Bool) (s : List Char) :
    hasWideClass (anchoredText os oe (s.flatMap Regex.escapeChar)) = true ↔
      ∃ a b c, s = a ++ '[' :: (b ++ ']' :: c) ∧ b ≠ [] ∧ '\n' ∉ b := by
  have hstart : hasWideClass (anchoredText os oe (s.flatMap Regex.escapeChar)) =
      hasWideClass (s.flatMap Regex.escapeChar ++ closing oe) := by
    cases os <;> rfl
  rw [hstart, hasWideClass_iff]
  constructor
  · rintro ⟨pre, mid, post, htext, hb, hn⟩
    have htail : '[' ∉ closing oe ∧ ']' ∉ closing oe := by cases oe <;> decide
    obtain ⟨a, s, rfl, -, htext⟩ := exists_of_flatMap_escapeChar rfl (by decide) htail.1 htext
    obtain ⟨b, c, rfl, rfl, -⟩ := exists_of_flatMap_escapeChar rfl (by decide) htail.2 htext.symm
    refine ⟨a, b, c, rfl, ?_, fun h => hn ?_⟩
    · rintro rfl
      simp at hb
    · exact List.mem_append_left _ ((mem_flatMap_escapeChar_iff (by decide)).mpr h)
  · rintro ⟨a, b, c, rfl, hb, hn⟩
    have hopen : Regex.escapeChar '[' = ['\\', '['] := rfl
    have hclose : Regex.escapeChar ']' = ['\\', ']'] := rfl
    refine ⟨a.flatMap Regex.escapeChar ++ ['\\'], b.flatMap Regex.escapeChar ++ ['\\'],
      c.flatMap Regex.escapeChar ++ closing oe, by simp [hopen, hclose], ?_, ?_⟩
    · obtain ⟨x, b, rfl⟩ := List.exists_cons_of_ne_nil hb
      have hx : 0 < (Regex.escapeChar x).length := by
        rw [Regex.escapeChar]
        split <;> simp
      rw [List.length_append, List.flatMap_cons, List.length_append, List.length_singleton]
      omega
    · rw [List.mem_append, mem_flatMap_escapeChar_iff (by decide)]
      simpa using hn

instance (s : List Char) : Decidable (Mistaken s) :=
  decidable_of_iff _ (or_congr (hasUnconvertibleRepetition_escaped true true s)
    (hasWideClass_escaped true true s))

/-! ## Conversion -/

/-- The expression of an escaped text, with an anchor at every end that is not open. -/
def anchoredEscape (os oe : Bool) (s : String) : String :=
  .ofList (anchoredText os oe (Regex.escape s).toList)

variable {text : String}

@[simp] theorem toList_anchoredEscape (os oe : Bool) (text : String) :
    (anchoredEscape os oe text).toList =
      anchoredText os oe (text.toList.flatMap Regex.escapeChar) := by
  rw [anchoredEscape, String.toList_ofList, Regex.escape, String.toList_ofList]

/-- Where the scans take the text for what it is, its expression is converted to its plain
characters. -/
theorem converts_escape (h : ¬ Mistaken text.toList) (os oe : Bool) :
    Converts (anchoredEscape os oe text) os oe (text.toList.flatMap Regex.escapeChar)
      (text.toList.map .literal) := by
  obtain ⟨hstar, hwide⟩ := not_or.mp h
  have htokens : tokenize (text.toList.flatMap Regex.escapeChar) =
      some (text.toList.map .literal) := by
    rw [flatMap_escapeChar_eq, tokenize_inRegex]
  refine converts_of_tokenize (toList_anchoredEscape os oe text) htokens ?_ ?_
  · rw [toList_anchoredEscape, ← Bool.not_eq_true, hasUnconvertibleRepetition_escaped]
    exact hstar
  · rw [toList_anchoredEscape, ← Bool.not_eq_true, hasWideClass_escaped]
    exact hwide

/-- **An escaped text stays an expression exactly if the scans mistake it.** -/
theorem mode_anchoredEscape_iff {ignoreCase : Bool} :
    (convert (anchoredEscape os oe text) ignoreCase).mode = .native ↔ Mistaken text.toList := by
  rw [mode_eq_native_iff]
  constructor
  · intro h
    by_contra hno
    rw [(converts_escape hno os oe).tokens_eq] at h
    cases h
  · intro h
    have hscan : (hasUnconvertibleRepetition (anchoredEscape os oe text).toList ||
        hasWideClass (anchoredEscape os oe text).toList) = true := by
      rw [Bool.or_eq_true, toList_anchoredEscape, hasUnconvertibleRepetition_escaped,
        hasWideClass_escaped]
      exact h
    rw [tokens?, if_pos hscan]

/-- The pattern of an escaped text with runs at the open ends; one of them alone, if the text is
empty. -/
theorem source_anchoredEscape {ignoreCase : Bool} (h : ¬ Mistaken text.toList)
    (hopen : os = true ∨ oe = true) : (convert (anchoredEscape os oe text) ignoreCase).source =
      if text = "" then "%"
      else (if os then "%" else "") ++ Like.escape text ++ if oe then "%" else "" := by
  have hsource := (converts_escape h os oe).source_eq ignoreCase
  rw [← String.toList_inj, hsource]
  split
  · next hempty =>
    subst hempty
    rcases hopen with rfl | rfl
    · cases oe <;> rfl
    · cases os <;> rfl
  · next hne =>
    rw [Like.collapse_withOpenEnds_literals (by simpa using hne), Like.escape_eq]
    cases os <;> cases oe <;> simp [Like.withOpenEnds, Like.render, Token.written]

theorem conversion_anchoredEscape_closed (ignoreCase : Bool) (h : ¬ Mistaken text.toList) :
    (convert (anchoredEscape false false text) ignoreCase).mode = .equals ∧
      (convert (anchoredEscape false false text) ignoreCase).source = Like.escape text := by
  have hconverts := converts_escape h false false
  constructor
  · simp [hconverts.mode_eq_equals_iff, Like.Token.isLiteral]
  · simp [← String.toList_inj, hconverts.source_eq, Like.escape_eq]

theorem mode_anchoredEscape_open {ignoreCase : Bool} (h : ¬ Mistaken text.toList)
    (hopen : os = true ∨ oe = true) :
    (convert (anchoredEscape os oe text) ignoreCase).mode = .like := by
  have hconverts := converts_escape h os oe
  have hequals : (convert (anchoredEscape os oe text) ignoreCase).mode ≠ .equals := by
    rw [Ne, hconverts.mode_eq_equals_iff]
    intro hall
    have hrun : Token.anyRun ∈ collapse (Like.withOpenEnds os oe (text.toList.map .literal)) := by
      rcases hopen with rfl | rfl <;> simp [Like.withOpenEnds]
    exact absurd (hall _ hrun) (by decide)
  have hnative : (convert (anchoredEscape os oe text) ignoreCase).mode ≠ .native := by
    rw [Ne, mode_anchoredEscape_iff]
    exact h
  cases hmode : (convert (anchoredEscape os oe text) ignoreCase).mode with
  | equals => exact absurd hmode hequals
  | like => rfl
  | native => exact absurd hmode hnative

theorem exists_compile_anchoredEscape (os oe ignoreCase : Bool) (text : String) :
    ∃ p, RegexPattern.compile (anchoredEscape os oe text) ignoreCase = .ok p ∧
      p.source = anchoredEscape os oe text ∧ p.ignoreCase = ignoreCase := by
  have hplain : Regex.Flags.Plain { caseInsensitive := ignoreCase } := ⟨rfl, rfl, rfl, rfl⟩
  have htext := toList_anchoredEscape os oe text
  rw [flatMap_escapeChar_eq] at htext
  obtain ⟨r, hr, -⟩ := Regex.compile_of_readsAs hplain htext (Like.readsAs_inRegex hplain _)
  exact ⟨⟨_, _, r, hr⟩, RegexPattern.compile_self ⟨_, _, r, hr⟩, rfl, rfl⟩

/-- A regular expression compiles unless it stays as it is and the backend has none. -/
theorem exists_fragment_iff (p : RegexPattern) (settings : Settings) (column : Column)
    (log : List Event) :
    (∃ f, (((Operator.regex p).compile settings column).run.run log).1 = .ok f) ↔
      settings.useRegex = true ∨ (convert p.source p.ignoreCase).mode ≠ .native := by
  have hrun : (((Operator.regex p).compile settings column).run.run log).1 =
      (convert p.source p.ignoreCase).fragment settings column :=
    congrArg Prod.fst (Condition.run_compile_regex p log)
  rw [hrun]
  constructor
  · rintro ⟨f, hf⟩
    by_contra h
    obtain ⟨huse, hnative⟩ := not_or.mp h
    rw [Conversion.fragment, not_not.mp hnative, if_neg huse] at hf
    cases hf
  · intro h
    have htaken : ¬ (settings.useRegex = false ∧
        (convert p.source p.ignoreCase).mode = .native) := by
      rintro ⟨huse, hnative⟩
      rcases h with h | h
      · rw [huse] at h
        cases h
      · exact h hnative
    obtain ⟨f, hf, -⟩ := Condition.exists_conversion_fragment column _ htaken
    exact ⟨f, hf⟩

/-- **An escaped text is converted to the pattern of that text, unless the scans mistake it**: to an
equality with the text between two anchors, and to the escaped text with a run at each open end
otherwise. Then, and only then, it compiles for a backend without regular expressions. -/
theorem convert_anchoredEscape (text : String) (os oe ignoreCase : Bool) :
    ∃ p, RegexPattern.compile (anchoredEscape os oe text) ignoreCase = .ok p ∧
      p.source = anchoredEscape os oe text ∧ p.ignoreCase = ignoreCase ∧
      let c := convert (anchoredEscape os oe text) ignoreCase
      c.caseSensitive = !ignoreCase ∧
      (c.mode = .native ↔ Mistaken text.toList) ∧
      (Mistaken text.toList → c.source = anchoredEscape os oe text) ∧
      (¬ Mistaken text.toList →
        (os = false → oe = false →
          c.mode = .equals ∧ c.source = Like.escape text ∧ c.literal = text) ∧
        (os = true ∨ oe = true → c.mode = .like ∧ c.source =
          if text = "" then "%"
          else (if os then "%" else "") ++ Like.escape text ++ if oe then "%" else "")) ∧
      ∀ settings column log,
        (∃ f, (((Operator.regex p).compile settings column).run.run log).1 = .ok f) ↔
          settings.useRegex = true ∨ ¬ Mistaken text.toList := by
  obtain ⟨p, hp, hsource, hcase⟩ := exists_compile_anchoredEscape os oe ignoreCase text
  refine ⟨p, hp, hsource, hcase, caseSensitive_convert _ _, mode_anchoredEscape_iff, fun h => ?_,
    fun h => ⟨?_, fun hopen => ⟨mode_anchoredEscape_open h hopen, source_anchoredEscape h hopen⟩⟩,
    fun settings column log => ?_⟩
  · exact source_eq_of_native (mode_anchoredEscape_iff.mpr h)
  · rintro rfl rfl
    obtain ⟨hmode, hescape⟩ := conversion_anchoredEscape_closed ignoreCase h
    refine ⟨hmode, hescape, ?_⟩
    rw [Conversion.literal, hescape, Operator.unescape_escape]
  · rw [exists_fragment_iff, hsource, hcase, Ne, mode_anchoredEscape_iff]

/-- A text with brackets that close before they open, and a wildcard. -/
theorem convert_anchoredEscape_punctuation :
    (convert "^\\]50%\\[$" false).mode = .equals ∧ (convert "^\\]50%\\[$" false).literal = "]50%[" ∧
      (convert "\\]50%\\[$" true).source = "%]50\\%[" := by
  have h : ¬ Mistaken "]50%[".toList := by decide +kernel
  obtain ⟨-, -, -, -, -, -, -, hclosed, -⟩ := convert_anchoredEscape "]50%[" false false false
  obtain ⟨-, -, -, -, -, -, -, hopen, -⟩ := convert_anchoredEscape "]50%[" true false true
  obtain ⟨hmode, -, hliteral⟩ := (hclosed h).1 rfl rfl
  exact ⟨hmode, hliteral, ((hopen h).2 (.inl rfl)).2⟩

/-- A star and brackets, escaped, stay expressions. -/
theorem convert_anchoredEscape_mistaken :
    (convert (anchoredEscape false false "a*b") false).mode = .native ∧
      (convert (anchoredEscape true true "[x]") false).mode = .native := by
  decide +kernel

end RecordFilter.Downgrade
