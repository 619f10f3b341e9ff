import RecordFilter.Like.Pattern
import RecordFilter.Proofs.Regex.Tokens

/-!
# Proofs/Like/Pattern — what a wildcard pattern matches

`Accepts` reads a pattern against a text, one character of the pattern at a time, and knows nothing
of tokens or regular expressions. Every pattern compiles, and what its expression matches is what
`Accepts` says.
-/

namespace RecordFilter

namespace Like

/-- What a plain character of a pattern stands for: itself, or all that folds as it does. -/
def Same (ignoreCase : Bool) (c d : Char) : Prop :=
  if ignoreCase then Text.fold c = Text.fold d else c = d

/-- The pattern, read from left to right, matches the text as a whole; `same` tells which characters
a plain character stands for. -/
inductive Accepts (same : Char → Char → Prop) : List Char → List Char → Prop
  | nil : Accepts same [] []
  | anyRun {p t} (run : List Char) : Accepts same p t → Accepts same ('%' :: p) (run ++ t)
  | anyChar {p t} (d : Char) : Accepts same p t → Accepts same ('_' :: p) (d :: t)
  | escaped {c d p t} : same c d → Accepts same p t → Accepts same ('\\' :: c :: p) (d :: t)
  /-- A backslash at the very end stands for itself. -/
  | backslash {d} : same '\\' d → Accepts same ['\\'] [d]
  | plain {c d p t} : isSpecial c = false → same c d → Accepts same p t →
      Accepts same (c :: p) (d :: t)

variable {same : Char → Char → Prop} {p t : List Char}

/-- What the reading from left to right accepts, the tokens match. -/
theorem Accepts.matches (h : Accepts same p t) : Matches same (tokens p) t := by
  induction h with
  | nil => rfl
  | anyRun run _ ih => exact ⟨run, _, rfl, ih⟩
  | anyChar d _ ih => exact ⟨d, _, rfl, ih⟩
  | escaped hcd _ ih => exact ⟨_, _, rfl, hcd, ih⟩
  | backslash hd => exact ⟨_, _, rfl, hd, rfl⟩
  | plain hc hcd _ ih =>
    rw [tokens_cons_of_not_isSpecial hc]
    exact ⟨_, _, rfl, hcd, ih⟩

/-- What the tokens match, the reading from left to right accepts. -/
theorem accepts_of_matches (h : Matches same (tokens p) t) : Accepts same p t := by
  induction p using tokens.induct generalizing t with
  | case1 =>
    obtain rfl : t = [] := h
    exact .nil
  | case2 c rest ih =>
    obtain ⟨d, t, rfl, hd, h⟩ := h
    exact .escaped hd (ih h)
  | case3 rest ih =>
    obtain ⟨run, t, rfl, h⟩ := h
    exact .anyRun run (ih h)
  | case4 rest ih =>
    obtain ⟨d, t, rfl, h⟩ := h
    exact .anyChar d (ih h)
  | case5 c rest hback hrun hchar ih =>
    by_cases hc : isSpecial c = true
    · -- Only a backslash without a character behind it is left.
      obtain rfl : c = '\\' := by
        simp only [isSpecial, Bool.or_eq_true, decide_eq_true_eq] at hc
        tauto
      obtain rfl : rest = [] := by
        cases rest with
        | nil => rfl
        | cons d rest => exact absurd rfl (hback d rest rfl)
      obtain ⟨d, t, rfl, hd, rfl⟩ := h
      exact .backslash hd
    · rw [tokens_cons_of_not_isSpecial (by simpa using hc)] at h
      obtain ⟨d, t, rfl, hd, h⟩ := h
      exact .plain (by simpa using hc) hd (ih h)

/-- **Reading a pattern against a text is matching its tokens.** -/
theorem accepts_iff_matches : Accepts same p t ↔ Matches same (tokens p) t :=
  ⟨Accepts.matches, accepts_of_matches⟩

/-! ## Patterns as expressions -/

/-- Whatever escaping puts a backslash before may stand behind one. -/
theorem isEscapable_of_isMeta {c : Char} (hc : Regex.Reader.isMeta c = true) :
    Regex.Reader.isEscapable c = true := by
  have h : ['\\', '.', '+', '*', '?', '(', ')', '|', '[', ']', '{', '}', '^', '$', '#', '&',
      '-', '~'].all Regex.Reader.isEscapable = true := by decide
  exact List.all_eq_true.mp h c (List.contains_iff_mem.mp hc)

/-- Whatever escaping leaves alone starts no construct. -/
theorem isConstruct_of_not_isMeta {c : Char} (hc : ¬ Regex.Reader.isMeta c = true) :
    Regex.State.isConstruct c = false :=
  Regex.State.isConstruct_eq_false (p := Regex.Reader.isMeta) (by decide) (by simpa using hc)

theorem plain_flags (ignoreCase : Bool) : (flags ignoreCase).Plain := ⟨rfl, rfl, rfl, rfl⟩

/-- Tokens are written with no character in front that means something in an expression, but for
points and backslashes. -/
theorem head?_inRegex_ne {d : Char} (hd : Regex.Reader.isMeta d = true) (hdot : d ≠ '.')
    (hescape : d ≠ '\\') (ts : List Token) : (ts.flatMap Token.inRegex).head? ≠ some d := by
  rcases ts with _ | ⟨_ | _ | _, ts⟩
  · exact nofun
  · next c =>
    rw [List.flatMap_cons, Token.inRegex, Regex.escapeChar]
    split
    · simpa using hescape.symm
    · next hc => simpa using fun h : c = d => hc (h ▸ hd)
  · simpa [Token.inRegex] using hdot.symm
  · simpa [Token.inRegex] using hdot.symm

/-- **The tokens written into an expression are read back by its parser.** -/
theorem readsAs_inRegex {f : Regex.Flags} (hf : f.Plain) :
    ∀ ts : List Token, Regex.ReadsAs f (ts.flatMap Token.inRegex) ts
  | [] => .nil
  | tok :: ts => by
      have hhead := head?_inRegex_ne (d := '?') rfl (by decide) (by decide) ts
      refine Regex.ReadsAs.append (?_ : Regex.ReadsAs f _ [tok]) (readsAs_inRegex hf ts) hhead
      cases tok with
      | literal c =>
        rw [Token.inRegex, Regex.escapeChar]
        split
        · next hc => exact .escape hf (isEscapable_of_isMeta hc)
        · next hc => exact .literal hf (isConstruct_of_not_isMeta hc)
      | anyChar => exact .dot hf
      | anyRun => exact .dotStar hf

@[simp] theorem toList_regexSource (pattern : String) : (regexSource pattern).toList =
    Regex.anchoredText false false ((tokens pattern.toList).flatMap Token.inRegex) := by
  simp [regexSource, Regex.anchoredText]

/-- Without open ends, the whole text has to be spelled. -/
@[simp]
theorem found_closed_iff {L : List Char → Prop} {t : List Char} : Found false false L t ↔ L t := by
  constructor
  · rintro ⟨pre, s, post, rfl, hs, hpre, hpost⟩
    rw [hpre rfl, hpost rfl]
    simpa using hs
  · exact fun h => ⟨[], t, [], by simp, h, fun _ => rfl, fun _ => rfl⟩

end Like

namespace LikePattern

open Like (Same tokens)

/-- **Every pattern compiles, and matches what its tokens match.** -/
theorem exists_compile (pattern : String) (ignoreCase : Bool) :
    ∃ q, compile pattern ignoreCase = .ok q ∧ q.pattern = pattern ∧ q.ignoreCase = ignoreCase ∧
      ∀ t, q.isMatch t = true ↔
        Like.Matches (Same ignoreCase) (tokens pattern.toList) t.toList := by
  have hf := Like.plain_flags ignoreCase
  obtain ⟨r, hr, hord, hfinds⟩ := Regex.compile_of_readsAs hf (Like.toList_regexSource pattern)
    (Like.readsAs_inRegex hf (tokens pattern.toList))
  have hcompile : compile pattern ignoreCase = .ok ⟨pattern, ignoreCase, r, hr⟩ := by
    unfold compile
    split
    · next r' hr' =>
      obtain rfl : r' = r := Except.ok.inj (hr'.symm.trans hr)
      rfl
    · next e he => cases he.symm.trans hr
  refine ⟨_, hcompile, rfl, rfl, fun t => ?_⟩
  have hsame : (Like.flags ignoreCase).same = Same ignoreCase :=
    funext₂ fun c d => propext (Regex.same_iff rfl c d)
  have hwild : (Like.flags ignoreCase).wild = fun _ => True :=
    funext fun d => propext ((Regex.wild_iff rfl d).trans (iff_of_true nofun trivial))
  calc r.isMatch t = true
    _ ↔ r.Finds t.toList := Regex.isMatch_eq_true_iff hord t
    _ ↔ _ := hfinds t.toList
    _ ↔ _ := Like.found_closed_iff
    _ ↔ _ := by rw [hsame, hwild, Like.spells_true_iff]

/-- **Every pattern compiles, and matches the texts that reading it from left to right accepts.** -/
theorem compile_accepts (pattern : String) (ignoreCase : Bool) :
    ∃ q, compile pattern ignoreCase = .ok q ∧ q.pattern = pattern ∧ q.ignoreCase = ignoreCase ∧
      ∀ t, q.isMatch t = true ↔ Like.Accepts (Same ignoreCase) pattern.toList t.toList := by
  obtain ⟨q, hq, hpattern, hcase, hmatch⟩ := exists_compile pattern ignoreCase
  exact ⟨q, hq, hpattern, hcase, fun t => (hmatch t).trans Like.accepts_iff_matches.symm⟩

end LikePattern

end RecordFilter
