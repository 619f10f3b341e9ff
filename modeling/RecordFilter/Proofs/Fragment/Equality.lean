import RecordFilter.Proofs.Downgrade.Equality
import RecordFilter.Proofs.Fragment.Reading
import RecordFilter.Proofs.Fragment.Scope

/-!
# Proofs/Fragment/Equality — equality in memory and on a backend

There are three ways to compare texts: exactly, in lower case, and folded. In memory, equality is
exact, equality that ignores case is in lower case, and an expression that ignores case folds. On a
backend, plain equality is exact or ignores case as the settings tell, and equality that ignores
case is a comparison in lower case or a wildcard match, which folds. Conditions and their fragments
*agree* on a text if both accept it or neither does; they agree on all texts exactly where the two
ways to compare do (`equality_agreesOn_iff`, `equalsIgnoreCase_agreesOn_iff`).
-/

namespace RecordFilter

open Downgrade (convert stripAnchors plainBrackets)

/-! ## Fragments on a backend -/

namespace Fragment

/-- What the fragment says on a backend with these settings, where plain equality may ignore
case. -/
def readWith (s : Settings) : Fragment → Value → Truth
  | compare column .equal x, v =>
    if s.sensitiveCompare then (compare column .equal x).read v
    else onPresent (fun v => .ofBool (v.equalsIgnoreCase x)) v
  | f, v => f.read v

/-- A backend with these settings selects a row whose column holds the text. -/
def Accepts (s : Settings) (f : Fragment) (t : String) : Prop := f.readWith s (.str t) = .holds

variable {s : Settings} {column : Column} {e t : String}

/-- Plain equality of texts looks at case only if the backend does. -/
@[simp] theorem readWith_compare_str : (compare column .equal (.str e)).readWith s (.str t) =
    .ofBool (if s.sensitiveCompare then t = e else Text.lower t = Text.lower e) := by
  rw [readWith]
  cases s.sensitiveCompare <;> rfl

@[simp] theorem readWith_lowerEquals_str {text : String} :
    (lowerEquals column text).readWith s (.str t) = .ofBool (Text.lower t = text) := rfl

/-- Plain equality accepts the text itself, or every text that is the same in lower case. -/
@[simp] theorem accepts_compare_iff : (compare column .equal (.str e)).Accepts s t ↔
    if s.sensitiveCompare then t = e else Text.lower t = Text.lower e := by
  simp [Accepts]

@[simp] theorem accepts_lowerEquals_iff {text : String} :
    (lowerEquals column text).Accepts s t ↔ Text.lower t = text := by
  simp [Accepts]

/-- A wildcard match with an escaped text accepts what is the same as the text. -/
@[simp] theorem accepts_wildcard_escape_iff {caseSensitive : Bool} :
    (wildcard column (Like.escape e) caseSensitive false).Accepts s t ↔
      Text.SameText (!caseSensitive) t e := by
  obtain ⟨q, hq, hmatch⟩ := LikePattern.exists_compile_escape e (!caseSensitive)
  have hread : (wildcard column (Like.escape e) caseSensitive false).read (.str t) =
      .ofBool (q.isMatch t != false) := by
    rw [read, onPresent, hq]
    rfl
  refine (Eq.congr_left hread).trans ?_
  simp [hmatch]

/-- **Equality that ignores case is a comparison of folded texts if it is asked for as a wildcard
match, and one in lower case if not.** -/
theorem accepts_equalsIgnoreCase_iff : (s.equalsIgnoreCase column (Like.escape e)).Accepts s t ↔
    if s.useLikeForCompare then Text.folded t = Text.folded e
    else Text.lower t = Text.lower e := by
  rw [Settings.equalsIgnoreCase]
  cases s.useLikeForCompare with
  | true => exact accepts_wildcard_escape_iff
  | false => cases hcompare : s.sensitiveCompare <;> simp [hcompare]

end Fragment

/-! ## Conditions of equality -/

/-- Texts are compared in lower case. -/
@[simp] theorem Operator.evaluate_equalsIgnoreCase_str {e t : String} :
    (equalsIgnoreCase (.str e)).evaluate (.str t) = .ofBool (Text.lower t = Text.lower e) := rfl

/-- An expression looks at the text itself. -/
@[simp] theorem Operator.evaluate_regex_str {p : RegexPattern} {t : String} :
    (regex p).evaluate (.str t) = .ofBool (p.isMatch t) := rfl

namespace Condition

variable {s : Settings} {column : Column} {e t : String} {p : RegexPattern}

@[simp] theorem evaluate_operator (o : Operator) (v : Value) :
    (operator o).evaluate v = o.evaluate v := rfl

/-- In memory texts are equal only if they are the same. -/
@[simp] theorem evaluate_equals_str :
    (equals (.str e)).evaluate (.str t) = .ofBool (t = e) := rfl

/-- **An expression that becomes an equality compiles to plain equality with its literal, or to
equality that ignores case.** -/
theorem compilesTo_regex_of_equals {ignoreCase : Bool} (hcase : p.ignoreCase = ignoreCase)
    (hmode : (convert p.source ignoreCase).mode = .equals) :
    CompilesTo (.operator (.regex p)) s column
      (if ignoreCase then
        s.equalsIgnoreCase column (Like.escape (convert p.source ignoreCase).literal)
      else .compare column .equal (.str (convert p.source ignoreCase).literal)) := by
  subst hcase
  have hfragment : (convert p.source p.ignoreCase).fragment s column = .ok (if p.ignoreCase then
        s.equalsIgnoreCase column (Like.escape (convert p.source p.ignoreCase).literal)
      else .compare column .equal (.str (convert p.source p.ignoreCase).literal)) := by
    rw [Conversion.fragment, hmode, Downgrade.caseSensitive_convert,
      ← Downgrade.source_eq_escape_literal hmode]
    cases p.ignoreCase <;> rfl
  refine .of_column (fun log => ?_) ?_ rfl
  · rw [run_compile_regex, hfragment]
  · split
    · exact column?_equalsIgnoreCase _
    · rfl

/-- The condition in memory and the fragment on the backend both accept the text, or neither
does. -/
def AgreesOn (c : Condition) (s : Settings) (f : Fragment) (t : String) : Prop :=
  c.evaluate (.str t) = .holds ↔ f.Accepts s t

end Condition

section Agree

open Condition (CompilesTo AgreesOn)

variable {c : Condition} {s : Settings} {column : Column} {f : Fragment} {e t : String}
  {p : RegexPattern}

/-- **An expression that becomes an equality agrees with what accepts its literal exactly if its
brackets are what they look like and the texts that are the same are accepted.** -/
theorem forall_agreesOn_regex_iff {ignoreCase : Bool} (hcase : p.ignoreCase = ignoreCase)
    (hmode : (convert p.source ignoreCase).mode = .equals)
    (hliteral : f.Accepts s (convert p.source ignoreCase).literal) :
    (∀ t, (Condition.operator (.regex p)).AgreesOn s f t) ↔
      plainBrackets (stripAnchors p.source.toList).body = true ∧
      ∀ t, Text.SameText ignoreCase t (convert p.source ignoreCase).literal ↔ f.Accepts s t := by
  subst hcase
  cases hplain : plainBrackets (stripAnchors p.source.toList).body with
  | true =>
    rw [and_iff_right rfl]
    refine forall_congr' fun t => ?_
    simp [AgreesOn, RegexPattern.isMatch_iff_sameText hmode hplain]
  | false =>
    refine iff_of_false (fun hagree => ?_) nofun
    have hmatch := (hagree _).mpr hliteral
    simp [RegexPattern.not_isMatch_literal hmode hplain] at hmatch

/-! ## Equality that respects case -/

/-- Plain equality accepts what is equal; it accepts more if the backend ignores case and finds no
other difference. -/
theorem eq_iff_accepts_compare_iff :
    (t = e ↔ (Fragment.compare column .equal (.str e)).Accepts s t) ↔
      s.sensitiveCompare = true ∨ (Text.lower t = Text.lower e → t = e) := by
  rw [Fragment.accepts_compare_iff]
  cases s.sensitiveCompare with
  | true => exact iff_of_true Iff.rfl (.inl rfl)
  | false =>
    have hlower : t = e → Text.lower t = Text.lower e := congrArg Text.lower
    refine ⟨fun h => .inr h.mpr, fun h => ⟨hlower, ?_⟩⟩
    exact h.resolve_left nofun

theorem accepts_compare_self : (Fragment.compare column .equal (.str e)).Accepts s e := by
  simp

/-- **Equality that respects case agrees with its fragment on a text exactly if the backend's
equality respects case too, or does not take the two texts for the same.** What is equal is accepted
in any case. An expression that becomes such an equality agrees likewise if its brackets are what
they look like, and otherwise not even on its literal. -/
theorem equality_agreesOn_iff (s : Settings) (column : Column) :
    (∀ e, ∃ f, CompilesTo (.equals (.str e)) s column f ∧ f.Accepts s e ∧
      ∀ t, (Condition.equals (.str e)).AgreesOn s f t ↔
        s.sensitiveCompare = true ∨ (Text.lower t = Text.lower e → t = e)) ∧
    ∀ p : RegexPattern, p.ignoreCase = false → (convert p.source false).mode = .equals →
      ∃ f e, e = (convert p.source false).literal ∧
        CompilesTo (.operator (.regex p)) s column f ∧ f.Accepts s e ∧
        ((∀ t, (Condition.operator (.regex p)).AgreesOn s f t) ↔
          plainBrackets (stripAnchors p.source.toList).body = true ∧
          (s.sensitiveCompare = true ∨ ∀ t, Text.lower t = Text.lower e → t = e)) := by
  refine ⟨fun e => ?_, fun p hcase hmode => ?_⟩
  · refine ⟨_, .of_pure rfl rfl rfl rfl, accepts_compare_self, fun t => ?_⟩
    have heq : (Condition.equals (.str e)).evaluate (.str t) = .holds ↔ t = e := by simp
    rw [AgreesOn, heq]
    exact eq_iff_accepts_compare_iff
  · have hcompile : CompilesTo (.operator (.regex p)) s column
        (.compare column .equal (.str (convert p.source false).literal)) :=
      Condition.compilesTo_regex_of_equals hcase hmode
    refine ⟨_, _, rfl, hcompile, accepts_compare_self, ?_⟩
    refine (forall_agreesOn_regex_iff hcase hmode accepts_compare_self).trans ?_
    refine and_congr_right fun _ => ?_
    rw [← forall_or_left]
    exact forall_congr' fun t => eq_iff_accepts_compare_iff

/-- An expression that becomes equality with a word, where equality respects case. -/
theorem equality_agreesOn_iff_anchored : ∃ p f,
    RegexPattern.compile "^big$" false = .ok p ∧ (convert p.source false).mode = .equals ∧
    CompilesTo (.operator (.regex p)) {} { name := "n" } f ∧
    ∀ t, (Condition.operator (.regex p)).AgreesOn {} f t := by
  obtain ⟨r, hr⟩ : ∃ r, Regex.compile { caseInsensitive := false } "^big$" = .ok r := ⟨_, rfl⟩
  let p : RegexPattern := ⟨"^big$", false, r, hr⟩
  have hmode : (convert "^big$" false).mode = .equals := by decide +kernel
  have hplain : plainBrackets (stripAnchors "^big$".toList).body = true := by decide +kernel
  obtain ⟨f, e, -, hcompile, -, hiff⟩ := (equality_agreesOn_iff {} { name := "n" }).2 p rfl hmode
  exact ⟨p, f, p.compile_self, hmode, hcompile, hiff.mpr ⟨hplain, .inl rfl⟩⟩

/-- Equality with a word becomes plain equality also where that ignores case. -/
theorem equality_accepts_other_case :
    CompilesTo (.equals (.str "big")) { sensitiveCompare := false } { name := "n" }
      (.compare { name := "n" } .equal (.str "big")) ∧
    (Condition.equals (.str "big")).evaluate (.str "BIG") = .fails ∧
    (Fragment.compare { name := "n" } .equal (.str "big")).Accepts
      { sensitiveCompare := false } "BIG" := by
  refine ⟨.of_pure rfl rfl rfl rfl, by decide +kernel, ?_⟩
  rw [Fragment.accepts_compare_iff]
  decide +kernel

/-! ## Equality that ignores case -/

/-- A comparison in lower case agrees with a fragment that does not fold, or where lower case and
folding agree. -/
theorem lower_iff_accepts_iff :
    (Text.lower t = Text.lower e ↔ (s.equalsIgnoreCase column (Like.escape e)).Accepts s t) ↔
      s.useLikeForCompare = false ∨
        (Text.lower t = Text.lower e ↔ Text.folded t = Text.folded e) := by
  rw [Fragment.accepts_equalsIgnoreCase_iff]
  cases s.useLikeForCompare with
  | true => exact (or_iff_right nofun).symm
  | false => exact iff_of_true Iff.rfl (.inl rfl)

/-- A comparison of folded texts agrees with a fragment that folds, or where lower case and folding
agree. -/
theorem folded_iff_accepts_iff :
    (Text.folded t = Text.folded e ↔ (s.equalsIgnoreCase column (Like.escape e)).Accepts s t) ↔
      s.useLikeForCompare = true ∨
        (Text.lower t = Text.lower e ↔ Text.folded t = Text.folded e) := by
  rw [Fragment.accepts_equalsIgnoreCase_iff]
  cases s.useLikeForCompare with
  | true => exact iff_of_true Iff.rfl (.inl rfl)
  | false => exact iff_comm.trans (or_iff_right nofun).symm

theorem accepts_equalsIgnoreCase_self :
    (s.equalsIgnoreCase column (Like.escape e)).Accepts s e := by
  simp [Fragment.accepts_equalsIgnoreCase_iff]

/-- **Equality that ignores case agrees with its fragment on all texts exactly if no wildcard match
stands for it or its text is unambiguous.** On a single text it is enough that lower case and
folding answer alike, as they do between ASCII texts. An expression that becomes such an equality
folds, so it needs the wildcard match or a literal that is unambiguous, and brackets that are what
they look like. -/
theorem equalsIgnoreCase_agreesOn_iff (s : Settings) (column : Column) :
    (∀ e, ∃ f, CompilesTo (.operator (.equalsIgnoreCase (.str e))) s column f ∧
      (∀ t, (Condition.operator (.equalsIgnoreCase (.str e))).AgreesOn s f t ↔
        s.useLikeForCompare = false ∨
          (Text.lower t = Text.lower e ↔ Text.folded t = Text.folded e)) ∧
      ((∀ t, (Condition.operator (.equalsIgnoreCase (.str e))).AgreesOn s f t) ↔
        s.useLikeForCompare = false ∨ Text.unambiguous e.toList = true)) ∧
    ∀ p : RegexPattern, p.ignoreCase = true → (convert p.source true).mode = .equals →
      ∃ f e, e = (convert p.source true).literal ∧
        CompilesTo (.operator (.regex p)) s column f ∧
        ((∀ t, (Condition.operator (.regex p)).AgreesOn s f t) ↔
          plainBrackets (stripAnchors p.source.toList).body = true ∧
          (s.useLikeForCompare = true ∨ Text.unambiguous e.toList = true)) := by
  refine ⟨fun e => ?_, fun p hcase hmode => ?_⟩
  · have hagree : ∀ t, (Condition.operator (.equalsIgnoreCase (.str e))).AgreesOn s
        (s.equalsIgnoreCase column (Like.escape e)) t ↔ s.useLikeForCompare = false ∨
          (Text.lower t = Text.lower e ↔ Text.folded t = Text.folded e) := by
      intro t
      have heq : (Condition.operator (.equalsIgnoreCase (.str e))).evaluate (.str t) = .holds ↔
          Text.lower t = Text.lower e := by simp
      rw [AgreesOn, heq]
      exact lower_iff_accepts_iff
    refine ⟨_, .of_pure rfl rfl (Condition.column?_equalsIgnoreCase _) rfl, hagree, ?_⟩
    rw [Text.unambiguous_iff, ← forall_or_left]
    exact forall_congr' hagree
  · have hcompile : CompilesTo (.operator (.regex p)) s column
        (s.equalsIgnoreCase column (Like.escape (convert p.source true).literal)) :=
      Condition.compilesTo_regex_of_equals hcase hmode
    refine ⟨_, _, rfl, hcompile, ?_⟩
    refine (forall_agreesOn_regex_iff hcase hmode accepts_equalsIgnoreCase_self).trans ?_
    refine and_congr_right fun _ => ?_
    rw [Text.unambiguous_iff, ← forall_or_left]
    exact forall_congr' fun t => folded_iff_accepts_iff

/-- An expression that becomes equality with a word, where the column is lower-cased. -/
theorem equalsIgnoreCase_agreesOn_iff_anchored : ∃ p f,
    RegexPattern.compile "^big$" true = .ok p ∧ (convert p.source true).mode = .equals ∧
    CompilesTo (.operator (.regex p)) {} { name := "n" } f ∧
    ∀ t, (Condition.operator (.regex p)).AgreesOn {} f t := by
  obtain ⟨r, hr⟩ : ∃ r, Regex.compile { caseInsensitive := true } "^big$" = .ok r := ⟨_, rfl⟩
  let p : RegexPattern := ⟨"^big$", true, r, hr⟩
  have hmode : (convert "^big$" true).mode = .equals := by decide +kernel
  have hplain : plainBrackets (stripAnchors "^big$".toList).body = true := by decide +kernel
  have hliteral : Text.unambiguous (convert "^big$" true).literal.toList = true := by
    decide +kernel
  obtain ⟨f, e, rfl, hcompile, hiff⟩ :=
    (equalsIgnoreCase_agreesOn_iff {} { name := "n" }).2 p rfl hmode
  exact ⟨p, f, p.compile_self, hmode, hcompile, hiff.mpr ⟨hplain, .inr hliteral⟩⟩

/-- The long s folds to the short one and is its own lower case: an expression in memory accepts it
for "s", the lower-cased column is not equal to "s". -/
theorem evaluates_long_s_not_accepts : ∃ p,
    RegexPattern.compile "^s$" true = .ok p ∧ (convert p.source true).mode = .equals ∧
    CompilesTo (.operator (.regex p)) {} { name := "n" } (.lowerEquals { name := "n" } "s") ∧
    (Condition.operator (.regex p)).evaluate (.str "ſ") = .holds ∧
    ¬ (Fragment.lowerEquals { name := "n" } "s").Accepts {} "ſ" := by
  obtain ⟨r, hr⟩ : ∃ r, Regex.compile { caseInsensitive := true } "^s$" = .ok r := ⟨_, rfl⟩
  let p : RegexPattern := ⟨"^s$", true, r, hr⟩
  have hmode : (convert "^s$" true).mode = .equals := by decide +kernel
  have hliteral : (convert "^s$" true).literal = "s" := by decide +kernel
  have hplain : plainBrackets (stripAnchors "^s$".toList).body = true := by decide +kernel
  have hsame : Text.SameText true "ſ" "s" := (by decide +kernel : Text.folded "ſ" = Text.folded "s")
  have hcompile : CompilesTo (.operator (.regex p)) {} { name := "n" }
      (Settings.equalsIgnoreCase {} { name := "n" } (Like.escape (convert "^s$" true).literal)) :=
    Condition.compilesTo_regex_of_equals rfl hmode
  have hlower : Settings.equalsIgnoreCase {} { name := "n" } (Like.escape "s") =
      .lowerEquals { name := "n" } (Text.lower "s") := by
    simp [Settings.equalsIgnoreCase]
  have hself : Text.lower "s" = "s" := by decide +kernel
  rw [hliteral, hlower, hself] at hcompile
  refine ⟨p, p.compile_self, hmode, hcompile, ?_, ?_⟩
  · rw [Condition.evaluate_operator, Operator.evaluate_regex_str, Truth.ofBool_eq_holds_iff,
      RegexPattern.isMatch_iff_sameText hmode hplain]
    exact hliteral ▸ hsame
  · rw [Fragment.accepts_lowerEquals_iff]
    decide +kernel

end Agree

end RecordFilter
