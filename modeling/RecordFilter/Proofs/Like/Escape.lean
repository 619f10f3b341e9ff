import RecordFilter.Proofs.Downgrade.Equality
import RecordFilter.Proofs.Fragment.Reading
import RecordFilter.Proofs.Like.Canonical

/-!
# Proofs/Like/Escape — escaped texts, and patterns without wildcards

A character of a pattern is **bare** if no backslash escapes it: the backslashes right before it are
even in number. A scan that takes a backslash and the next character together meets the bare
characters and no others (`bare_escape_iff`, `bare_cons_iff`). So what a scan finds can be told from
positions:

* `wildcardFree_iff` — a pattern has no wildcards if no percent sign and no underscore is bare; then
  it matches the text that is left when its escapes are dropped, and nothing else;
* `escape_unescape_eq_iff` — it is the escaped form of that text if, moreover, every bare backslash
  stands before a character that needs it.
-/

namespace RecordFilter.Like

open Downgrade (endsWithEscape endsWithEscape_append endsWithEscape_concat)

variable {c d : Char} {cs rest : List Char}

/-! ## Bare characters -/

/-- The pattern has the character, with `rest` behind it, and no backslash escapes it. -/
def Bare (cs : List Char) (c : Char) (rest : List Char) : Prop :=
  ∃ before, cs = before ++ c :: rest ∧ endsWithEscape before = false

theorem not_bare_nil : ¬ Bare [] c rest := by
  rintro ⟨before, heq, -⟩
  simp at heq

/-- Of a backslash and the character it escapes, the backslash is bare. -/
theorem bare_escape_iff :
    Bare ('\\' :: d :: cs) c rest ↔ (c = '\\' ∧ rest = d :: cs) ∨ Bare cs c rest := by
  have hopen : ∀ before, endsWithEscape ('\\' :: d :: before) = endsWithEscape before :=
    endsWithEscape_append ((endsWithEscape_concat ['\\'] d).trans (Bool.and_false _))
  constructor
  · rintro ⟨before, heq, hbefore⟩
    rcases before with _ | ⟨x, _ | ⟨y, before⟩⟩
    · obtain ⟨rfl, rfl⟩ := List.cons.inj heq
      exact .inl ⟨rfl, rfl⟩
    · obtain ⟨rfl, -⟩ := List.cons.inj heq
      exact absurd hbefore (by decide)
    · obtain ⟨rfl, htail⟩ := List.cons.inj heq
      obtain ⟨rfl, rfl⟩ := List.cons.inj htail
      exact .inr ⟨before, rfl, (hopen before).symm.trans hbefore⟩
  · rintro (⟨rfl, rfl⟩ | ⟨before, rfl, hbefore⟩)
    · exact ⟨[], rfl, rfl⟩
    · exact ⟨'\\' :: d :: before, rfl, (hopen before).trans hbefore⟩

/-- A character that escapes nothing is bare: any but a backslash, and a backslash at the end. -/
theorem bare_cons_iff (hd : d = '\\' → cs = []) :
    Bare (d :: cs) c rest ↔ (c = d ∧ rest = cs) ∨ Bare cs c rest := by
  have hopen : cs ≠ [] → ∀ before, endsWithEscape (d :: before) = endsWithEscape before := by
    intro hcs before
    refine endsWithEscape_append (a := [d]) ?_ before
    rw [← List.nil_append [d], endsWithEscape_concat, decide_eq_false (mt hd hcs), Bool.false_and]
  constructor
  · rintro ⟨_ | ⟨x, before⟩, heq, hbefore⟩
    · obtain ⟨rfl, rfl⟩ := List.cons.inj heq
      exact .inl ⟨rfl, rfl⟩
    · obtain ⟨rfl, rfl⟩ := List.cons.inj heq
      exact .inr ⟨before, rfl, (hopen (by simp) before).symm.trans hbefore⟩
  · rintro (⟨rfl, rfl⟩ | ⟨before, rfl, hbefore⟩)
    · exact ⟨[], rfl, rfl⟩
    · exact ⟨d :: before, rfl, (hopen (by simp) before).trans hbefore⟩

/-- A backslash that escapes nothing is the last character. -/
theorem eq_nil_of_not_escape (h : ∀ x tail, d = '\\' → cs = x :: tail → False) (hd : d = '\\') :
    cs = [] := by
  cases cs with
  | nil => rfl
  | cons x tail => exact absurd rfl (h x tail hd)

theorem forall_bare_escape_iff {P : Char → List Char → Prop} :
    (∀ c rest, Bare ('\\' :: d :: cs) c rest → P c rest) ↔
      P '\\' (d :: cs) ∧ ∀ c rest, Bare cs c rest → P c rest := by
  simp only [bare_escape_iff, or_imp, forall_and, and_imp, forall_eq_apply_imp_iff, forall_eq]

theorem forall_bare_cons_iff {P : Char → List Char → Prop} (hd : d = '\\' → cs = []) :
    (∀ c rest, Bare (d :: cs) c rest → P c rest) ↔
      P d cs ∧ ∀ c rest, Bare cs c rest → P c rest := by
  simp only [bare_cons_iff hd, or_imp, forall_and, and_imp, forall_eq_apply_imp_iff, forall_eq]

/-! ## Patterns without wildcards -/

/-- No percent sign and no underscore is bare. -/
def WildcardFree (cs : List Char) : Prop := ∀ c rest, Bare cs c rest → c ≠ '%' ∧ c ≠ '_'

/-- **The scan for wildcards finds the bare ones.** -/
theorem wildcardFree_iff : WildcardFree cs ↔ hasWildcard cs = false := by
  induction cs using hasWildcard.induct with
  | case1 d rest ih =>
    rw [hasWildcard, ← ih]
    exact forall_bare_escape_iff.trans (and_iff_right (by decide))
  | case2 d rest hescape ih =>
    rw [hasWildcard.eq_2 d rest hescape, Bool.or_eq_false_iff, Bool.or_eq_false_iff, ← ih,
      decide_eq_false_iff_not, decide_eq_false_iff_not]
    exact forall_bare_cons_iff (eq_nil_of_not_escape hescape)
  | case3 => exact iff_of_true (fun c rest h => absurd h not_bare_nil) rfl

instance (cs : List Char) : Decidable (WildcardFree cs) := decidable_of_iff _ wildcardFree_iff.symm

/-- Dropping escapes leaves the characters of the tokens. -/
theorem tokens_eq_of_not_hasWildcard (h : hasWildcard cs = false) :
    tokens cs = (unescapeChars cs).map .literal := by
  induction cs using tokens.induct with
  | case1 => rfl
  | case2 c rest ih => rw [tokens, unescapeChars, List.map_cons, ih h]
  | case3 rest => cases h
  | case4 rest => cases h
  | case5 c rest hescape hrun hchar ih =>
    rw [hasWildcard.eq_2 c rest hescape, Bool.or_eq_false_iff] at h
    rw [tokens.eq_5 c rest hescape hrun hchar, unescapeChars.eq_2 c rest hescape, List.map_cons,
      ih h.2]

/-! ## Escaped texts -/

/-- Every bare backslash stands before a character that needs one. -/
def EscapesNeeded (cs : List Char) : Prop :=
  ∀ rest, Bare cs '\\' rest → ∃ d tail, rest = d :: tail ∧ isSpecial d = true

/-- What a bare character of an escaped text has behind it: if it needs a backslash, it is one, and
the next character needs it. -/
def Fits (c : Char) (rest : List Char) : Prop :=
  isSpecial c = true → c = '\\' ∧ ∃ d tail, rest = d :: tail ∧ isSpecial d = true

theorem forall_bare_fits_iff :
    (∀ c rest, Bare cs c rest → Fits c rest) ↔ WildcardFree cs ∧ EscapesNeeded cs := by
  constructor
  · intro h
    refine ⟨fun c rest hbare => ⟨?_, ?_⟩, fun rest hbare => (h _ rest hbare rfl).2⟩
    · rintro rfl
      exact absurd (h _ rest hbare rfl).1 (by decide)
    · rintro rfl
      exact absurd (h _ rest hbare rfl).1 (by decide)
  · rintro ⟨hfree, hneeded⟩ c rest hbare hc
    obtain ⟨hrun, hchar⟩ := hfree c rest hbare
    obtain rfl : c = '\\' := by simpa [isSpecial, hrun, hchar] using hc
    exact ⟨rfl, hneeded rest hbare⟩

/-- **Escaping what is left without escapes gives back the patterns that fit**, and no others. -/
theorem flatMap_escapeChar_unescapeChars_eq_iff :
    (unescapeChars cs).flatMap escapeChar = cs ↔ ∀ c rest, Bare cs c rest → Fits c rest := by
  induction cs using unescapeChars.induct with
  | case1 d rest ih =>
    rw [forall_bare_escape_iff, ← ih, unescapeChars, List.flatMap_cons, escapeChar]
    by_cases hd : isSpecial d = true
    · rw [if_pos hd, List.cons_append, List.singleton_append, List.cons.injEq, List.cons.injEq,
        and_iff_right rfl, and_iff_right rfl]
      exact (and_iff_right fun _ => ⟨rfl, d, rest, rfl, hd⟩).symm
    · -- The escape is not needed, so escaping does not bring it back.
      rw [if_neg hd, List.singleton_append, List.cons.injEq]
      refine iff_of_false (fun h => hd (h.1 ▸ rfl)) fun h => ?_
      obtain ⟨-, e, tail, heq, he⟩ := h.1 rfl
      exact hd ((List.cons.inj heq).1 ▸ he)
  | case2 d rest hescape ih =>
    have hend := eq_nil_of_not_escape hescape
    rw [forall_bare_cons_iff hend, ← ih, unescapeChars.eq_2 d rest hescape, List.flatMap_cons,
      escapeChar]
    by_cases hd : isSpecial d = true
    · -- A wildcard, or a backslash at the end, comes back with a backslash in front.
      rw [if_pos hd, List.cons_append, List.cons.injEq]
      refine iff_of_false (fun h => ?_) fun h => ?_
      · obtain rfl := hend h.1.symm
        cases h.2
      · obtain ⟨rfl, e, tail, heq, -⟩ := h.1 hd
        cases (hend rfl).symm.trans heq
    · rw [if_neg hd, List.singleton_append, List.cons.injEq, and_iff_right rfl]
      exact (and_iff_right fun h => absurd h hd).symm
  | case3 => exact iff_of_true rfl fun c rest h => absurd h not_bare_nil

/-- **A pattern is the escaped form of what is left without its escapes** exactly if it has no
wildcards and needs its backslashes. -/
theorem escape_unescape_eq_iff {p : String} :
    escape (unescape p) = p ↔ WildcardFree p.toList ∧ EscapesNeeded p.toList := by
  rw [← forall_bare_fits_iff, ← flatMap_escapeChar_unescapeChars_eq_iff, escape, unescape,
    String.toList_ofList, ← String.toList_inj, String.toList_ofList]

end RecordFilter.Like

namespace RecordFilter

open Like (WildcardFree EscapesNeeded escape unescape)

/-- **A pattern without wildcards matches what is the same as the text left without escapes.** -/
theorem LikePattern.exists_compile_of_wildcardFree {p : String} (h : WildcardFree p.toList)
    (ignoreCase : Bool) : ∃ q, compile p ignoreCase = .ok q ∧
      ∀ t, q.isMatch t = true ↔ Text.SameText ignoreCase t (unescape p) := by
  obtain ⟨q, hq, -, -, hmatch⟩ := exists_compile p ignoreCase
  refine ⟨q, hq, fun t => (hmatch t).trans ?_⟩
  have htext : Like.unescapeChars p.toList = (unescape p).toList := String.toList_ofList.symm
  rw [Like.tokens_eq_of_not_hasWildcard (Like.wildcardFree_iff.mp h), htext,
    ← Like.spells_true_iff]
  exact Like.spells_literals_same_iff

/-- **Escaping, dropping escapes and matching agree.** Dropping the escapes of an escaped text gives
the text back, and escaping gives back the patterns in which every wildcard is escaped and every
backslash belongs to an escape that is needed. A pattern without wildcards, whatever its escapes,
matches the text left without these and nothing else. So the escaped form of a text matches just
that text. -/
theorem Like.escape_unescape_isMatch :
    (∀ t, unescape (escape t) = t) ∧
    (∀ p, escape (unescape p) = p ↔ WildcardFree p.toList ∧ EscapesNeeded p.toList) ∧
    (∀ p, WildcardFree p.toList → ∃ q, LikePattern.compile p false = .ok q ∧
      ∀ u, q.isMatch u = true ↔ u = unescape p) ∧
    ∀ t, ∃ q, LikePattern.compile (escape t) false = .ok q ∧ ∀ u, q.isMatch u = true ↔ u = t :=
  ⟨Operator.unescape_escape, fun _ => Like.escape_unescape_eq_iff,
    fun _ h => LikePattern.exists_compile_of_wildcardFree h false,
    fun t => LikePattern.exists_compile_escape t false⟩

/-- Escapes that are needed, one that is not, and a backslash at the end. -/
theorem Like.escape_unescape_isMatch_backslashes :
    WildcardFree "5\\%\\a\\".toList ∧ unescape "5\\%\\a\\" = "5%a\\" ∧
    ∃ q, LikePattern.compile "5\\%\\a\\" false = .ok q ∧ ∀ u, q.isMatch u = true ↔ u = "5%a\\" := by
  have hfree : WildcardFree "5\\%\\a\\".toList := by decide
  have htext : unescape "5\\%\\a\\" = "5%a\\" := by decide
  obtain ⟨-, -, hmatch, -⟩ := Like.escape_unescape_isMatch
  exact ⟨hfree, htext, htext ▸ hmatch _ hfree⟩

end RecordFilter
