import RecordFilter.Proofs.Fragment.Equality

/-!
# Proofs/Operator/Downgraded — regular expressions that stand for plainer operators

An expression that is converted compiles to the fragment of the condition it stands for: equality
with its literal, or the wildcard match with its source (`compile_ofRegex`).

In memory, an expression that becomes an equality looks at the plain text of a value, and equality
at the value itself. So both agree on texts and on null, but a number or truth value that is written
like the literal matches the expression and equals no text (`evaluate_ofRegex_eq_equals_iff`).
-/

namespace RecordFilter

open Downgrade (convert)

theorem RegexPattern.fields_of_compile {source : String} {ignoreCase : Bool} {p : RegexPattern}
    (h : compile source ignoreCase = .ok p) : p.source = source ∧ p.ignoreCase = ignoreCase := by
  unfold compile at h
  split at h
  · cases h
    exact ⟨rfl, rfl⟩
  · cases h

/-- What is constructed from an expression has its source and its way to look at case. -/
theorem Operator.exists_regex_of_map {source : String} {ignoreCase : Bool} {o : Operator}
    (h : regex <$> RegexPattern.compile source ignoreCase = .ok o) :
    ∃ p, o = regex p ∧ p.source = source ∧ p.ignoreCase = ignoreCase := by
  cases hp : RegexPattern.compile source ignoreCase with
  | error e =>
    rw [hp] at h
    cases h
  | ok p =>
    rw [hp] at h
    exact ⟨p, (Except.ok.inj h).symm, RegexPattern.fields_of_compile hp⟩

/-! ## Fragments -/

namespace Condition

/-- Both conditions compile, and to the same fragment. -/
def SharesFragment (c d : Condition) (s : Settings) (column : Column) : Prop :=
  ∃ f, c.CompilesTo s column f ∧ d.CompilesTo s column f

variable {s : Settings} {column : Column} {p : RegexPattern} {ignoreCase : Bool}

theorem compilesTo_equals (e : String) :
    CompilesTo (.equals (.str e)) s column (.compare column .equal (.str e)) :=
  .of_pure rfl rfl rfl rfl

theorem compilesTo_equalsIgnoreCase (e : String) :
    CompilesTo (.operator (.equalsIgnoreCase (.str e))) s column
      (s.equalsIgnoreCase column (Like.escape e)) :=
  .of_pure rfl rfl (column?_equalsIgnoreCase _) rfl

/-- An expression that becomes a wildcard pattern compiles to the match with it. -/
theorem compilesTo_regex_of_like (hcase : p.ignoreCase = ignoreCase)
    (hmode : (convert p.source ignoreCase).mode = .like) :
    CompilesTo (.operator (.regex p)) s column
      (.wildcard column (convert p.source ignoreCase).source (!ignoreCase) false) := by
  subst hcase
  refine .of_column (fun log => ?_) rfl rfl
  rw [run_compile_regex, Conversion.fragment, hmode, Downgrade.caseSensitive_convert]

/-- Every wildcard pattern can be matched with case and without, and compiles to that match. -/
theorem exists_compilesTo_like (pattern : String) (ignoreCase : Bool) (s : Settings)
    (column : Column) : ∃ q, LikePattern.compile pattern ignoreCase = .ok q ∧
      CompilesTo (.operator (.like q)) s column (.wildcard column pattern true false) ∧
      CompilesTo (.operator (.likeIgnoreCase q)) s column
        (.wildcard column pattern false false) := by
  obtain ⟨q, hq, rfl, -⟩ := LikePattern.exists_compile pattern ignoreCase
  exact ⟨q, hq, .of_pure rfl rfl rfl rfl, .of_pure rfl rfl rfl rfl⟩

end Condition

namespace Operator

open Condition (CompilesTo SharesFragment)

/-- **An expression that is converted compiles as the plain operator it stands for.** With case, an
equality compiles as equality with its literal and a wildcard pattern as the match with its source;
without case, as equality and as a match that ignore it. All of these are built and compile, for
every column and all settings. -/
theorem compile_ofRegex (source : String) (s : Settings) (column : Column) :
    (∀ o, ofRegex source = .ok o →
      let c := convert source false
      (c.mode = .equals → SharesFragment (.operator o) (.equals (.str c.literal)) s column) ∧
      (c.mode = .like → ∃ plain, ofLike c.source = .ok plain ∧
        SharesFragment (.operator o) (.operator plain) s column)) ∧
    ∀ o, ofRegexIgnoreCase source = .ok o →
      let c := convert source true
      (c.mode = .equals →
        SharesFragment (.operator o) (.operator (.equalsIgnoreCase (.str c.literal))) s column) ∧
      (c.mode = .like → ∃ plain, ofLikeIgnoreCase c.source = .ok plain ∧
        SharesFragment (.operator o) (.operator plain) s column) := by
  constructor
  · intro o ho
    obtain ⟨p, rfl, rfl, hcase⟩ := exists_regex_of_map ho
    refine ⟨fun hmode => ⟨_, Condition.compilesTo_regex_of_equals hcase hmode,
      Condition.compilesTo_equals _⟩, fun hmode => ?_⟩
    obtain ⟨q, hq, hlike, -⟩ :=
      Condition.exists_compilesTo_like (convert p.source false).source false s column
    exact ⟨.like q, by rw [ofLike, hq]; rfl, _, Condition.compilesTo_regex_of_like hcase hmode,
      hlike⟩
  · intro o ho
    obtain ⟨p, rfl, rfl, hcase⟩ := exists_regex_of_map ho
    refine ⟨fun hmode => ⟨_, Condition.compilesTo_regex_of_equals hcase hmode,
      Condition.compilesTo_equalsIgnoreCase _⟩, fun hmode => ?_⟩
    obtain ⟨q, hq, -, hlike⟩ :=
      Condition.exists_compilesTo_like (convert p.source true).source true s column
    exact ⟨.likeIgnoreCase q, by rw [ofLikeIgnoreCase, hq]; rfl, _,
      Condition.compilesTo_regex_of_like hcase hmode, hlike⟩

/-- An expression with a percent sign in brackets, where equality that ignores case is asked for as
a wildcard match. -/
theorem compile_ofRegex_percent : ∃ o, ofRegexIgnoreCase "^50[%]$" = .ok o ∧
    SharesFragment (.operator o) (.operator (.equalsIgnoreCase (.str "50%")))
      { useLikeForCompare := true } { name := "n" } := by
  obtain ⟨r, hr⟩ : ∃ r, Regex.compile { caseInsensitive := true } "^50[%]$" = .ok r := ⟨_, rfl⟩
  obtain ⟨p, hp, -⟩ := RegexPattern.exists_compile hr
  have ho : ofRegexIgnoreCase "^50[%]$" = .ok (.regex p) := by
    rw [ofRegexIgnoreCase, hp]
    rfl
  have hmode : (convert "^50[%]$" true).mode = .equals := by decide
  have hliteral : (convert "^50[%]$" true).literal = "50%" := by decide
  have h := ((compile_ofRegex "^50[%]$" { useLikeForCompare := true } { name := "n" }).2 _ ho).1
    hmode
  exact ⟨_, ho, hliteral ▸ h⟩

/-! ## Values -/

/-- Equality with a text fails for every value but texts and null. -/
theorem evaluate_equals_str_eq_fails {v : Value} (hnull : v.isNull = false)
    (htext : v.asStr? = none) (e : String) : (Condition.equals (.str e)).evaluate v = .fails := by
  cases v with
  | null => cases hnull
  | str t => cases htext
  | _ => rfl

/-- **To be written like a text is to be equal to it, for texts alone.** Null is neither; other
values may be written like the text, but equal none. -/
theorem onText_eq_equals_iff (e : String) (v : Value) :
    onText (fun t => decide (t = e)) v = (Condition.equals (.str e)).evaluate v ↔
      v.isNull = true ∨ v.asStr?.isSome = true ∨ v.text ≠ e := by
  have hother : ∀ w : Value, w.isNull = false → w.asStr? = none →
      onText (fun t => decide (t = e)) w = .ofBool (decide (w.text = e)) →
      (onText (fun t => decide (t = e)) w = (Condition.equals (.str e)).evaluate w ↔
        w.isNull = true ∨ w.asStr?.isSome = true ∨ w.text ≠ e) := by
    intro w hnull htext htest
    rw [htest, evaluate_equals_str_eq_fails hnull htext, hnull, htext]
    by_cases h : w.text = e <;> simp [h, Truth.ofBool]
  cases v with
  | null => exact iff_of_true rfl (.inl rfl)
  | str t => exact iff_of_true rfl (.inr (.inl rfl))
  | bool b => exact hother _ rfl rfl rfl
  | int n => exact hother _ rfl rfl rfl
  | float x => exact hother _ rfl rfl rfl

/-- An expression on one line that becomes an equality matches its literal and nothing else. -/
theorem isMatch_eq_decide_literal {p : RegexPattern} (hcase : p.ignoreCase = false)
    (hline : '\n' ∉ p.source.toList) (hmode : (convert p.source false).mode = .equals) :
    p.isMatch = fun t => decide (t = (convert p.source false).literal) := by
  have hconverts : (convert p.source p.ignoreCase).mode ≠ .native := by
    rw [hcase, hmode]
    decide
  obtain ⟨ts, -, h⟩ := Downgrade.exists_converts hconverts
  have hplain := h.plainBrackets_eq_true (Downgrade.plain_searchFlags p.ignoreCase false)
    p.compile_eq (.inl hline)
  funext t
  have hmatch := RegexPattern.isMatch_iff_sameText (hcase ▸ hmode) hplain t
  rw [hcase] at hmatch
  rw [Bool.eq_iff_iff, decide_eq_true_eq]
  exact hmatch

/-- **An expression that becomes an equality evaluates like it on null and on texts, and on other
values exactly if these are not written like the literal.** Both compile to the same fragment, which
says what equality says. -/
theorem evaluate_ofRegex_eq_equals_iff {source : String} {o : Operator}
    (ho : ofRegex source = .ok o) (hline : '\n' ∉ source.toList)
    (hmode : (convert source false).mode = .equals) :
    let e := (convert source false).literal
    (∀ v, o.evaluate v = (Condition.equals (.str e)).evaluate v ↔
      v.isNull = true ∨ v.asStr?.isSome = true ∨ v.text ≠ e) ∧
    ∀ s column, ∃ f, CompilesTo (.operator o) s column f ∧
      CompilesTo (.equals (.str e)) s column f ∧
      ∀ v, f.read v = (Condition.equals (.str e)).evaluate v := by
  obtain ⟨p, rfl, rfl, hcase⟩ := exists_regex_of_map ho
  refine ⟨fun v => ?_, fun s column => ⟨_, Condition.compilesTo_regex_of_equals hcase hmode,
    Condition.compilesTo_equals _, fun v => rfl⟩⟩
  rw [evaluate, isMatch_eq_decide_literal hcase hline hmode]
  exact onText_eq_equals_iff _ v

/-- A word is not written like any number, so an expression for it evaluates like equality. -/
theorem evaluate_ofRegex_eq_equals_iff_word : ∃ o, ofRegex "^a\\.b$" = .ok o ∧
    o.evaluate (.int 10) = (Condition.equals (.str "a.b")).evaluate (.int 10) ∧
    o.evaluate (.str "a.b") = (Condition.equals (.str "a.b")).evaluate (.str "a.b") := by
  obtain ⟨r, hr⟩ : ∃ r, Regex.compile { caseInsensitive := false } "^a\\.b$" = .ok r := ⟨_, rfl⟩
  obtain ⟨p, hp, -⟩ := RegexPattern.exists_compile hr
  have ho : ofRegex "^a\\.b$" = .ok (.regex p) := by
    rw [ofRegex, hp]
    rfl
  have hmode : (convert "^a\\.b$" false).mode = .equals := by decide
  have hliteral : (convert "^a\\.b$" false).literal = "a.b" := by decide
  obtain ⟨hevaluate, -⟩ := evaluate_ofRegex_eq_equals_iff ho (by decide) hmode
  rw [hliteral] at hevaluate
  refine ⟨_, ho, (hevaluate _).mpr (.inr (.inr ?_)), (hevaluate _).mpr (.inr (.inl rfl))⟩
  decide

/-- The number ten is written like the literal of an expression that becomes an equality: the
expression matches it, and it equals no text. -/
theorem evaluate_ofRegex_ne_equals : ∃ o, ofRegex "^10$" = .ok o ∧
    (convert "^10$" false).mode = .equals ∧ (convert "^10$" false).literal = "10" ∧
    o.evaluate (.int 10) = .holds ∧ (Condition.equals (.str "10")).evaluate (.int 10) = .fails :=
  ⟨_, rfl, by decide, by decide, by decide, by decide⟩

end Operator

end RecordFilter
