import RecordFilter.Proofs.Like.Spelling

/-!
# Proofs/Like/Literal — patterns without wildcards

Plain characters alone spell one text, or its case variants, and dropping the escapes of their
pattern gives that text back (`unescapeChars_render_literals`).
-/

namespace RecordFilter.Like

theorem unescapeChars_cons {c : Char} (h : c ≠ '\\') (rest : List Char) :
    unescapeChars (c :: rest) = c :: unescapeChars rest :=
  unescapeChars.eq_2 c rest fun _ _ hc _ => h hc

/-- Dropping an escape gives its character back. -/
@[simp] theorem unescapeChars_escapeChar_append (c : Char) (rest : List Char) :
    unescapeChars (escapeChar c ++ rest) = c :: unescapeChars rest := by
  rw [escapeChar]
  split
  · rfl
  · next h =>
    simp only [isSpecial, Bool.or_eq_true, decide_eq_true_eq, not_or] at h
    exact unescapeChars_cons h.2 rest

/-- **Dropping the escapes of plain characters gives the characters back.** -/
@[simp] theorem unescapeChars_render_literals : ∀ s : List Char,
    unescapeChars (render (s.map .literal)) = s
  | [] => rfl
  | c :: s => by
      simp [Token.written, unescapeChars_render_literals s]

/-- Plain characters in front of tokens keep runs behind them apart from others. -/
theorem collapse_literals_append (ts : List Token) : ∀ s : List Char,
    Downgrade.collapse (s.map .literal ++ ts) = s.map Token.literal ++ Downgrade.collapse ts
  | [] => rfl
  | c :: s => by
      simp [Downgrade.collapse.eq_2 (.literal c), collapse_literals_append ts s]

/-- Without runs there is nothing to collapse. -/
@[simp] theorem collapse_literals (s : List Char) :
    Downgrade.collapse (s.map .literal) = s.map Token.literal := by
  simpa [Downgrade.collapse] using collapse_literals_append [] s

/-- Runs around a text that is not empty stay apart. -/
theorem collapse_withOpenEnds_literals {s : List Char} (hs : s ≠ []) (os oe : Bool) :
    Downgrade.collapse (withOpenEnds os oe (s.map .literal)) =
      withOpenEnds os oe (s.map .literal) := by
  have hend : Downgrade.collapse (if oe then [.anyRun] else []) =
      if oe then [Token.anyRun] else [] := by cases oe <;> rfl
  have hbody : Downgrade.collapse (s.map .literal ++ if oe then [.anyRun] else []) =
      s.map .literal ++ if oe then [.anyRun] else [] := by
    rw [collapse_literals_append, hend]
  cases os with
  | false => exact hbody
  | true =>
    obtain ⟨c, s, rfl⟩ := List.exists_cons_of_ne_nil hs
    exact (Downgrade.collapse.eq_2 .anyRun _ (by simp)).trans (congrArg (Token.anyRun :: ·) hbody)

/-- Tokens without wildcards are the characters of a text. -/
theorem exists_eq_map_literal : ∀ {ts : List Token}, (∀ tok ∈ ts, tok.isLiteral = true) →
    ∃ s : List Char, ts = s.map .literal
  | [], _ => ⟨[], rfl⟩
  | .literal c :: ts, h => by
      obtain ⟨s, rfl⟩ := exists_eq_map_literal fun tok htok => h tok (List.mem_cons_of_mem _ htok)
      exact ⟨c :: s, rfl⟩
  | .anyChar :: ts, h => absurd (h .anyChar List.mem_cons_self) (by decide)
  | .anyRun :: ts, h => absurd (h .anyRun List.mem_cons_self) (by decide)

/-- Plain characters that stand for themselves alone spell the text of these characters. -/
@[simp] theorem spells_literals_iff {wild : Char → Prop} : ∀ {s t : List Char},
    Spells Eq wild (s.map Token.literal) t ↔ t = s
  | [], _ => Iff.rfl
  | c :: s, t => by
      constructor
      · rintro ⟨d, rest, rfl, rfl, h⟩
        rw [spells_literals_iff.mp h]
      · rintro rfl
        exact ⟨c, s, rfl, rfl, spells_literals_iff.mpr rfl⟩

end RecordFilter.Like
