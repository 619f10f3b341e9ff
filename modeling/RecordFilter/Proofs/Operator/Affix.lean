import RecordFilter.Proofs.Fragment.Equality

/-!
# Proofs/Operator/Affix — looking for a text at the start, at the end or anywhere

An escaped text with a percent sign at an end is a pattern that is open there: what it matches has
the text in it, with anything towards that end (`tokens_openPattern`). No character of the text runs
into the percent sign, a backslash at its end included, since escaping leaves no backslash over. So
the operators built from such patterns hold for the texts with a given prefix, suffix or infix
(`finds_affix`).
-/

namespace RecordFilter

namespace Like

variable {a t : List Char}

/-- The escaped text, with a percent sign at each open end. -/
def openPattern (openStart openEnd : Bool) (text : String) : String :=
  (if openStart then "%" else "") ++ escape text ++ if openEnd then "%" else ""

/-- **Percent signs beside an escaped text are read as runs of any characters.** -/
@[simp] theorem tokens_openPattern (os oe : Bool) (text : String) :
    tokens (openPattern os oe text).toList = withOpenEnds os oe (text.toList.map .literal) := by
  have hwritten : (openPattern os oe text).toList =
      render (withOpenEnds os oe (text.toList.map .literal)) := by
    rw [openPattern, escape_eq]
    cases os <;> cases oe <;> simp [withOpenEnds, render, Token.written]
  simp [hwritten]

example : tokens (openPattern true true "%\\").toList =
    [.anyRun, .literal '%', .literal '\\', .anyRun] := by decide

/-- What is found at the start, with the end open, is a prefix. -/
@[simp] theorem found_prefix_iff : Found false true (· = a) t ↔ a <+: t := by
  constructor
  · rintro ⟨pre, _, post, rfl, rfl, hpre, -⟩
    rw [hpre rfl, List.nil_append]
    exact List.prefix_append _ post
  · rintro ⟨post, rfl⟩
    exact ⟨[], _, post, rfl, rfl, fun _ => rfl, nofun⟩

@[simp] theorem found_suffix_iff : Found true false (· = a) t ↔ a <:+ t := by
  constructor
  · rintro ⟨pre, _, post, rfl, rfl, -, hpost⟩
    rw [hpost rfl, List.append_nil]
    exact List.suffix_append pre _
  · rintro ⟨pre, rfl⟩
    exact ⟨pre, _, [], (List.append_nil _).symm, rfl, nofun, fun _ => rfl⟩

@[simp] theorem found_infix_iff : Found true true (· = a) t ↔ a <:+: t := by
  constructor
  · rintro ⟨pre, _, post, rfl, rfl, -, -⟩
    exact ⟨pre, post, rfl⟩
  · rintro ⟨pre, post, rfl⟩
    exact ⟨pre, _, post, rfl, rfl, nofun, nofun⟩

end Like

/-- **A pattern with open ends matches the texts that have the text there.** -/
theorem LikePattern.exists_compile_openPattern (os oe : Bool) (text : String) :
    ∃ q, compile (Like.openPattern os oe text) false = .ok q ∧
      q.pattern = Like.openPattern os oe text ∧
      ∀ t, q.isMatch t = true ↔ Like.Found os oe (· = text.toList) t.toList := by
  obtain ⟨q, hq, hpattern, -, hmatch⟩ := exists_compile (Like.openPattern os oe text) false
  refine ⟨q, hq, hpattern, fun t => (hmatch t).trans ?_⟩
  rw [Like.tokens_openPattern, Like.matches_withOpenEnds_iff]
  exact Like.found_congr fun s => Like.spells_true_iff.symm.trans Like.spells_literals_iff

namespace Operator

/-- On texts the operator holds for those with the property and fails for all others, and it
compiles to the match with the pattern, which looks at case and is not negated. -/
structure Finds (o : Operator) (P : List Char → Prop) (pattern : String) : Prop where
  holds_iff : ∀ s : String, o.evaluate (.str s) = .holds ↔ P s.toList
  fails_iff : ∀ s : String, o.evaluate (.str s) = .fails ↔ ¬ P s.toList
  compile_eq : ∀ settings column,
    o.compile settings column = pure (.wildcard column pattern true false)

variable {os oe : Bool} {text : String} {P : List Char → Prop}

/-- A pattern with open ends finds what has the text there. -/
theorem exists_finds_openPattern (hP : ∀ {t}, Like.Found os oe (· = text.toList) t ↔ P t) :
    ∃ o, ofLike (Like.openPattern os oe text) = .ok o ∧
      o.Finds P (Like.openPattern os oe text) := by
  obtain ⟨q, hq, hpattern, hmatch⟩ := LikePattern.exists_compile_openPattern os oe text
  have hfinds : ∀ s, q.isMatch s = true ↔ P s.toList := fun s => (hmatch s).trans hP
  refine ⟨like q, by rw [ofLike, hq]; rfl, fun s => ?_, fun s => ?_, fun settings column => ?_⟩
  · simp [evaluate, hfinds]
  · simp [evaluate, ← hfinds]
  · rw [← hpattern]
    rfl

/-- **Looking for a text, whatever its characters, finds it.** The operator is always built. It
holds for the texts with that prefix, suffix or infix and fails for all others, and it compiles to
one match with the escaped text, with a percent sign behind it, before it or on both sides. -/
theorem finds_affix (a : String) :
    (∃ o, startsWith a = .ok o ∧ o.Finds (a.toList <+: ·) (Like.escape a ++ "%")) ∧
    (∃ o, endsWith a = .ok o ∧ o.Finds (a.toList <:+ ·) ("%" ++ Like.escape a)) ∧
    ∃ o, contains a = .ok o ∧ o.Finds (a.toList <:+: ·) ("%" ++ Like.escape a ++ "%") := by
  have hprefix : Like.escape a ++ "%" = Like.openPattern false true a := by
    rw [Like.openPattern, if_neg Bool.false_ne_true, if_pos rfl, String.empty_append]
  have hsuffix : "%" ++ Like.escape a = Like.openPattern true false a := by
    rw [Like.openPattern, if_neg Bool.false_ne_true, if_pos rfl, String.append_empty]
  have hinfix : "%" ++ Like.escape a ++ "%" = Like.openPattern true true a := rfl
  rw [startsWith, endsWith, contains, hinfix, hprefix, hsuffix]
  exact ⟨exists_finds_openPattern Like.found_prefix_iff,
    exists_finds_openPattern Like.found_suffix_iff, exists_finds_openPattern Like.found_infix_iff⟩

end Operator

end RecordFilter
