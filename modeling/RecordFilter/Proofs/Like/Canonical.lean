import RecordFilter.Proofs.Like.Literal
import RecordFilter.Proofs.Like.Pattern

/-!
# Proofs/Like/Canonical — one spelling for each wildcard pattern

Patterns of the same meaning may be spelled differently: with an escape of a character that needs
none, with a backslash at the very end, with several runs in a row. The **canonical form**
`canonicalChars` leaves none of this.

* `canonicalChars_eq` — it is what the tokens are written as, with one run in place of several;
* `isCanonical_iff` — a scan of single characters (`isCanonical`) tells which patterns have it;
* `accepts_canonicalChars_iff` — it matches the same texts.
-/

namespace RecordFilter.Like

variable {c : Char} {cs rest t : List Char} {tok : Token} {ts : List Token}
  {same : Char → Char → Prop}

/-! ## Wildcards -/

/-- Whether a pattern has a wildcard: a percent sign or an underscore that no backslash makes
plain. -/
def hasWildcard : List Char → Bool
  | '\\' :: _ :: rest => hasWildcard rest
  | c :: rest => c = '%' || c = '_' || hasWildcard rest
  | [] => false

/-- **A pattern without wildcards has plain characters alone.** -/
theorem hasWildcard_eq_false_iff (cs : List Char) :
    hasWildcard cs = false ↔ ∀ tok ∈ tokens cs, tok.isLiteral = true := by
  induction cs using tokens.induct with
  | case1 => simp [hasWildcard, tokens]
  | case2 c rest ih => simpa [hasWildcard, tokens, Token.isLiteral] using ih
  | case3 rest ih => simp [hasWildcard, tokens, Token.isLiteral]
  | case4 rest ih => simp [hasWildcard, tokens, Token.isLiteral]
  | case5 c rest hescape hrun hchar ih =>
    rw [hasWildcard.eq_2 c rest hescape, tokens.eq_5 c rest hescape hrun hchar,
      List.forall_mem_cons, ← ih]
    have hrun' : c ≠ '%' := fun h => hrun h
    have hchar' : c ≠ '_' := fun h => hchar h
    simp [hrun', hchar', Token.isLiteral]

/-- The same of a pattern that is written from tokens. -/
theorem hasWildcard_render_eq_false_iff :
    hasWildcard (render ts) = false ↔ ∀ tok ∈ ts, tok.isLiteral = true := by
  simp [hasWildcard_eq_false_iff]

/-! ## Characters and tokens -/

/-- Plain characters come from the pattern. -/
theorem mem_of_literal_mem_tokens (h : .literal c ∈ tokens cs) : c ∈ cs := by
  induction cs using tokens.induct with
  | case1 => cases h
  | case2 d rest ih =>
    rw [tokens, List.mem_cons, Token.literal.injEq] at h
    exact List.mem_cons_of_mem '\\' (List.mem_cons.mpr (h.imp_right ih))
  | case3 rest ih =>
    rw [tokens, List.mem_cons, or_iff_right (by simp)] at h
    exact List.mem_cons_of_mem '%' (ih h)
  | case4 rest ih =>
    rw [tokens, List.mem_cons, or_iff_right (by simp)] at h
    exact List.mem_cons_of_mem '_' (ih h)
  | case5 d rest hescape hrun hchar ih =>
    rw [tokens.eq_5 d rest hescape hrun hchar, List.mem_cons, Token.literal.injEq] at h
    exact List.mem_cons.mpr (h.imp_right ih)

/-- A pattern starts with a percent sign exactly if a run is its first token. -/
theorem head?_tokens_iff : (tokens cs).head? = some .anyRun ↔ cs.head? = some '%' := by
  rw [tokens.eq_def]
  split <;> simp_all

theorem head?_render_iff : (render ts).head? = some '%' ↔ ts.head? = some .anyRun := by
  simp [← head?_tokens_iff]

@[simp] theorem head?_collapse (ts : List Token) : (Downgrade.collapse ts).head? = ts.head? := by
  induction ts using Downgrade.collapse.induct with
  | case1 rest ih =>
    rw [Downgrade.collapse, ih]
    rfl
  | case2 tok rest h ih =>
    rw [Downgrade.collapse.eq_2 tok rest h]
    rfl
  | case3 => rw [Downgrade.collapse]

/-- A token that is no run, or has no run behind it, stays. -/
theorem collapse_cons (h : tok = .anyRun → ts.head? ≠ some .anyRun) :
    Downgrade.collapse (tok :: ts) = tok :: Downgrade.collapse ts :=
  Downgrade.collapse.eq_2 tok ts fun _ htok hts => h htok (hts ▸ rfl)

@[simp] theorem collapse_literal_cons (c : Char) (ts : List Token) :
    Downgrade.collapse (.literal c :: ts) = .literal c :: Downgrade.collapse ts :=
  collapse_cons nofun

/-! ## Canonical form -/

/-- The pattern in canonical form: one run in place of several in a row, and a backslash before each
plain character that needs it, a backslash at the very end included, and before no other. -/
def canonicalChars : List Char → List Char
  | '\\' :: c :: rest => escapeChar c ++ canonicalChars rest
  | ['\\'] => ['\\', '\\']
  | '%' :: '%' :: rest => canonicalChars ('%' :: rest)
  | c :: rest => c :: canonicalChars rest
  | [] => []

/-- The canonical form of a pattern. -/
def canonical (pattern : String) : String := .ofList (canonicalChars pattern.toList)

/-- Whether every backslash stands before a character that needs it, and no run before another. -/
def isCanonical : List Char → Bool
  | '\\' :: c :: rest => isSpecial c && isCanonical rest
  | ['\\'] => false
  | '%' :: '%' :: _ => false
  | _ :: rest => isCanonical rest
  | [] => true

/-- Every character but the backslash is written for some token. -/
theorem exists_written_eq (h : c ≠ '\\') : ∃ tok : Token, tok.written = [c] := by
  by_cases hc : isSpecial c = true
  · simp only [isSpecial, Bool.or_eq_true, decide_eq_true_eq] at hc
    obtain (rfl | rfl) | rfl := hc
    · exact ⟨.anyRun, rfl⟩
    · exact ⟨.anyChar, rfl⟩
    · exact absurd rfl h
  · exact ⟨.literal c, if_neg hc⟩

/-- **The canonical form is what the tokens are written as**, with one run in place of several. -/
theorem canonicalChars_eq (cs : List Char) :
    canonicalChars cs = render (Downgrade.collapse (tokens cs)) := by
  induction cs using canonicalChars.induct with
  | case1 c rest ih =>
    simp [canonicalChars, tokens, ih, Token.written]
  | case2 => rfl
  | case3 rest ih =>
    rw [canonicalChars, ih]
    rfl
  | case4 c rest hescape hend hruns ih =>
    have hc : c ≠ '\\' := by
      rintro rfl
      cases rest with
      | nil => exact hend rfl rfl
      | cons d rest => exact hescape d rest rfl rfl
    obtain ⟨tok, htok⟩ := exists_written_eq hc
    have htokens : tokens (c :: rest) = tok :: tokens rest := by
      rw [← tokens_written_append, htok, List.singleton_append]
    have hapart : tok = .anyRun → (tokens rest).head? ≠ some .anyRun := by
      rintro rfl hhead
      obtain ⟨rest, rfl⟩ := List.head?_eq_some_iff.mp (head?_tokens_iff.mp hhead)
      exact hruns rest (List.cons.inj htok).1.symm rfl
    rw [canonicalChars.eq_4 c rest hescape hend hruns, ih, htokens, collapse_cons hapart,
      render_cons, htok, List.singleton_append]
  | case5 => rfl

/-- The canonical form has the same tokens, with one run in place of several. -/
@[simp] theorem tokens_canonicalChars (cs : List Char) :
    tokens (canonicalChars cs) = Downgrade.collapse (tokens cs) := by
  simp [canonicalChars_eq]

/-- **The canonical form matches the same texts.** -/
@[simp]
theorem accepts_canonicalChars_iff : Accepts same (canonicalChars cs) t ↔ Accepts same cs t := by
  simp [accepts_iff_matches]

/-! ## The scan for the canonical form -/

/-- The scan passes a character that is no backslash, unless it is the first of two percent
signs. -/
theorem isCanonical_cons (h : c ≠ '\\') (hapart : c = '%' → rest.head? ≠ some '%') :
    isCanonical (c :: rest) = isCanonical rest :=
  isCanonical.eq_4 c rest (fun _ _ hc _ => h hc) (fun hc _ => h hc)
    fun _ hc hrest => hapart hc (hrest ▸ rfl)

/-- The scan passes a token, unless that is a run with another behind it. -/
theorem isCanonical_written_append (h : tok = .anyRun → rest.head? ≠ some '%') :
    isCanonical (tok.written ++ rest) = isCanonical rest := by
  cases tok with
  | literal c =>
    rw [Token.written, escapeChar]
    split
    · next hc =>
      rw [List.cons_append, List.singleton_append, isCanonical, hc, Bool.true_and]
    · next hc =>
      refine isCanonical_cons ?_ ?_
      · rintro rfl
        exact hc rfl
      · rintro rfl
        exact absurd rfl hc
  | anyChar => exact isCanonical_cons (by decide) fun hc => absurd hc (by decide)
  | anyRun => exact isCanonical_cons (by decide) fun _ => h rfl

/-- **What tokens are written as is in canonical form, with one run in place of several.** -/
@[simp] theorem isCanonical_render_collapse (ts : List Token) :
    isCanonical (render (Downgrade.collapse ts)) = true := by
  induction ts using Downgrade.collapse.induct with
  | case1 rest ih => rwa [Downgrade.collapse]
  | case2 tok rest h ih =>
    have hapart : tok = .anyRun → (render (Downgrade.collapse rest)).head? ≠ some '%' := by
      intro htok hhead
      rw [head?_render_iff, head?_collapse] at hhead
      obtain ⟨rest, rfl⟩ := List.head?_eq_some_iff.mp hhead
      exact h rest htok rfl
    simp [Downgrade.collapse.eq_2 tok rest h, isCanonical_written_append hapart, ih]
  | case3 => rfl

theorem canonicalChars_of_isCanonical (h : isCanonical cs = true) : canonicalChars cs = cs := by
  induction cs using canonicalChars.induct with
  | case1 c rest ih =>
    rw [isCanonical, Bool.and_eq_true] at h
    rw [canonicalChars, escapeChar, if_pos h.1, ih h.2]
    rfl
  | case2 => cases h
  | case3 rest ih => cases h
  | case4 c rest hescape hend hruns ih =>
    rw [isCanonical.eq_4 c rest hescape hend hruns] at h
    rw [canonicalChars.eq_4 c rest hescape hend hruns, ih h]
  | case5 => rfl

/-- **The scan finds the patterns that are their own canonical form.** -/
theorem isCanonical_iff : isCanonical cs = true ↔ canonicalChars cs = cs := by
  refine ⟨canonicalChars_of_isCanonical, fun h => ?_⟩
  rw [← h, canonicalChars_eq]
  simp

end RecordFilter.Like
