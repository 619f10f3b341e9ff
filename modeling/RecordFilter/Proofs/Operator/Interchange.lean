import RecordFilter.Proofs.Fragment.Reading
import RecordFilter.Proofs.Fragment.Scope
import RecordFilter.Proofs.Like.Lines
import RecordFilter.Proofs.Value.Order

/-!
# Proofs/Operator/Interchange — operators that count as equal

Operators are compared by their operands, and patterns by their texts. An operand may be exchanged
for one that is the same, the two zeros included, without any effect (`compare?_congr`,
`equals_congr`), and so may a regular expression. A wildcard pattern does not show in its text
whether it ignores case; compiling does not ask, but evaluating does. So two operators that count
as equal always compile to the same, and evaluate to the same exactly if their patterns ignore case
both or neither, or if no character of theirs has case (`evaluate_eq_iff`).
-/

namespace RecordFilter

/-! ## Patterns -/

namespace Like

variable {same same' : Char → Char → Prop}

/-- Every character stands for itself. -/
theorem same_refl (ignoreCase : Bool) (c : Char) : Same ignoreCase c c := by
  cases ignoreCase <;> exact rfl

/-- Only the characters that the tokens name have to be the same as more. -/
theorem Matches.mono : ∀ {ts : List Token} {t : List Char},
    (∀ c, .literal c ∈ ts → ∀ d, same c d → same' c d) → Matches same ts t → Matches same' ts t
  | [], _, _, h => h
  | .literal c :: _, _, hmono, ⟨d, rest, ht, hd, h⟩ =>
      ⟨d, rest, ht, hmono c List.mem_cons_self d hd,
        h.mono fun c hc => hmono c (List.mem_cons_of_mem _ hc)⟩
  | .anyChar :: _, _, hmono, ⟨d, rest, ht, h⟩ =>
      ⟨d, rest, ht, h.mono fun c hc => hmono c (List.mem_cons_of_mem _ hc)⟩
  | .anyRun :: _, _, hmono, ⟨run, rest, ht, h⟩ =>
      ⟨run, rest, ht, h.mono fun c hc => hmono c (List.mem_cons_of_mem _ hc)⟩

/-- **In a shortest text there is one place for each character**, since all runs are empty. -/
theorem matches_shortest_iff (hrefl : ∀ c, same c c) (ts us : List Token) (c d : Char) :
    Matches same (ts ++ .literal c :: us) (fill [] ts ++ d :: fill [] us) ↔ same c d := by
  rw [← spells_true_iff, spells_append_iff]
  constructor
  · rintro ⟨a, _, heq, ha, e, b, rfl, hce, hb⟩
    have hts := ha.width_le
    have hus := hb.width_le
    have hlength := congrArg List.length heq
    rw [List.length_append, List.length_append, List.length_cons, List.length_cons,
      length_fill_nil, length_fill_nil] at hlength
    have hsplit := List.append_inj heq (by rw [length_fill_nil]; omega)
    rw [(List.cons_eq_cons.mp hsplit.2).1]
    exact hce
  · intro hcd
    exact ⟨_, _, rfl, spells_true_iff.mpr (matches_fill hrefl [] ts), d, _, rfl, hcd,
      spells_true_iff.mpr (matches_fill hrefl [] us)⟩

/-- No character that the tokens name has another one which folds as it does. -/
def Caseless (ts : List Token) : Prop :=
  ∀ c, .literal c ∈ ts → ∀ d, Text.fold c = Text.fold d → c = d

/-- **Ignoring case changes what the tokens match, unless they name only characters without
case.** -/
theorem forall_matches_iff (ts : List Token) :
    (∀ t, Matches (Same false) ts t ↔ Matches (Same true) ts t) ↔ Caseless ts := by
  constructor
  · intro h c hc d hcd
    obtain ⟨before, after, rfl⟩ := List.append_of_mem hc
    have hsame := h (fill [] before ++ d :: fill [] after)
    rw [matches_shortest_iff (same_refl false),
      matches_shortest_iff (same_refl true)] at hsame
    exact hsame.mpr hcd
  · intro h t
    exact ⟨.mono fun c _ d (hcd : c = d) => hcd ▸ same_refl true c, .mono h⟩

end Like

namespace LikePattern

open Like (Same Caseless tokens)

variable {p q : LikePattern}

/-- There is one pattern for each text and either way to look at case. -/
theorem eq_of_pattern_eq (hpattern : p.pattern = q.pattern) (hcase : p.ignoreCase = q.ignoreCase) :
    p = q := by
  obtain ⟨pattern, ignoreCase, matcher, hp⟩ := p
  obtain ⟨pattern', ignoreCase', matcher', hq⟩ := q
  obtain rfl : pattern = pattern' := hpattern
  obtain rfl : ignoreCase = ignoreCase' := hcase
  obtain rfl := Except.ok.inj (hp.symm.trans hq)
  rfl

/-- A pattern matches what its tokens match. -/
theorem isMatch_iff (p : LikePattern) (t : String) :
    p.isMatch t = true ↔ Like.Matches (Same p.ignoreCase) (tokens p.pattern.toList) t.toList := by
  obtain ⟨q, -, hpattern, hcase, hmatch⟩ := exists_compile p.pattern p.ignoreCase
  obtain rfl : q = p := eq_of_pattern_eq hpattern hcase
  exact hmatch t

theorem pattern_eq_of_sameAs (h : p.sameAs q = true) : p.pattern = q.pattern :=
  of_decide_eq_true (Bool.and_eq_true_iff.mp h).1

/-- **Patterns that count as equal match the same texts exactly if both ignore case or neither does,
or if their characters have none.** -/
theorem forall_isMatch_eq_iff (h : p.sameAs q = true) : (∀ t, p.isMatch t = q.isMatch t) ↔
    p.ignoreCase = q.ignoreCase ∨ Caseless (tokens p.pattern.toList) := by
  have hmatches : (∀ t, p.isMatch t = q.isMatch t) ↔
      ∀ t, Like.Matches (Same p.ignoreCase) (tokens p.pattern.toList) t ↔
        Like.Matches (Same q.ignoreCase) (tokens p.pattern.toList) t := by
    have hone : ∀ t, p.isMatch t = q.isMatch t ↔
        (Like.Matches (Same p.ignoreCase) (tokens p.pattern.toList) t.toList ↔
          Like.Matches (Same q.ignoreCase) (tokens p.pattern.toList) t.toList) := by
      intro t
      rw [Bool.eq_iff_iff, isMatch_iff, isMatch_iff, pattern_eq_of_sameAs h]
    simp only [hone]
    exact ⟨fun h t => by simpa using h (.ofList t), fun h t => h t.toList⟩
  rw [hmatches]
  cases p.ignoreCase with
  | false =>
    cases q.ignoreCase with
    | false => exact iff_of_true (fun _ => Iff.rfl) (.inl rfl)
    | true => exact (Like.forall_matches_iff _).trans (or_iff_right nofun).symm
  | true =>
    cases q.ignoreCase with
    | false =>
      simp only [iff_comm (a := Like.Matches (Same true) _ _)]
      exact (Like.forall_matches_iff _).trans (or_iff_right nofun).symm
    | true => exact iff_of_true (fun _ => Iff.rfl) (.inl rfl)

end LikePattern

theorem RegexPattern.eq_of_sameAs {p q : RegexPattern} (h : p.sameAs q = true) : p = q := by
  obtain ⟨source, ignoreCase, matcher, hp⟩ := p
  obtain ⟨source', ignoreCase', matcher', hq⟩ := q
  obtain ⟨hsource, hcase⟩ := Bool.and_eq_true_iff.mp h
  obtain rfl : source = source' := of_decide_eq_true hsource
  obtain rfl : ignoreCase = ignoreCase' := of_decide_eq_true hcase
  obtain rfl := Except.ok.inj (hp.symm.trans hq)
  rfl

/-! ## Operands -/

namespace Value

variable {v w : Value}

/-- Values that are the same are equal, or doubles that are the same number. -/
theorem eq_or_equals_of_sameAs (h : v.sameAs w = true) :
    v = w ∨ ∃ x y, v = .float x ∧ w = .float y ∧ x.equals y = true := by
  cases v with
  | float x =>
    cases w with
    | float y => exact .inr ⟨x, y, rfl, rfl, h⟩
    | _ => cases h
  | null =>
    cases w with
    | null => exact .inl rfl
    | _ => cases h
  | bool a =>
    cases w with
    | bool b => exact .inl (congrArg bool (of_decide_eq_true h))
    | _ => cases h
  | int m =>
    cases w with
    | int n => exact .inl (congrArg int (of_decide_eq_true h))
    | _ => cases h
  | str s =>
    cases w with
    | str t => exact .inl (congrArg str (of_decide_eq_true h))
    | _ => cases h

/-- Equal doubles denote the same number; that they need not have the same bits makes no
difference. -/
theorem number?_eq_of_equals {x y : Double} (h : x.equals y = true) : x.number? = y.number? := by
  rw [Double.number?_eq, Double.number?_eq]
  rw [Double.equals] at h
  cases hx : x.quantity? with
  | none => simp [hx] at h
  | some a =>
    cases hy : y.quantity? with
    | none => simp [hx, hy] at h
    | some b =>
      rw [hx, hy] at h
      rw [of_decide_eq_true h]

/-- What is the same has the same place. -/
theorem place?_eq_of_sameAs (h : v.sameAs w = true) : v.place? = w.place? := by
  obtain rfl | ⟨x, y, rfl, rfl, h⟩ := eq_or_equals_of_sameAs h
  · rfl
  · rw [place?_float, place?_float, number?_eq_of_equals h]

/-- **What is the same has the same order.** -/
theorem compare?_congr (h : v.sameAs w = true) (u : Value) : u.compare? v = u.compare? w := by
  rw [compare?_eq_order?, compare?_eq_order?, place?_eq_of_sameAs h]

theorem isNull_eq_of_sameAs (h : v.sameAs w = true) : v.isNull = w.isNull := by
  obtain rfl | ⟨x, y, rfl, rfl, h⟩ := eq_or_equals_of_sameAs h
  · rfl
  · rfl

theorem eq_null_iff_of_sameAs (h : v.sameAs w = true) : v = .null ↔ w = .null := by
  obtain rfl | ⟨x, y, rfl, rfl, -⟩ := eq_or_equals_of_sameAs h
  · exact Iff.rfl
  · exact iff_of_false nofun nofun

/-- **What is the same equals the same values.** -/
theorem equals_congr (h : v.sameAs w = true) (u : Value) : u.equals v = u.equals w := by
  rw [Bool.eq_iff_iff, equals_iff, equals_iff, compare?_congr h, eq_null_iff_of_sameAs h]

/-- Operands that are the same are equal to the same values. -/
theorem equalsIgnoreCase_congr (h : v.sameAs w = true) (u : Value) :
    u.equalsIgnoreCase v = u.equalsIgnoreCase w := by
  obtain rfl | ⟨x, y, rfl, rfl, -⟩ := eq_or_equals_of_sameAs h
  · rfl
  · have hequals : ∀ z, u.equalsIgnoreCase (.float z) = u.equals (.float z) := by
      cases u <;> exact fun _ => rfl
    rw [hequals, hequals, equals_congr h]

end Value

/-! ## Operators -/

namespace Operator

open Like (Caseless tokens)

variable {a b : Operator}

/-- **Operators that count as equal** have operands that are the same, patterns that count as equal,
or the same regular expression. -/
theorem cases_of_sameAs (h : a.sameAs b = true) :
    (∃ i v w, a = ordered i v ∧ b = ordered i w ∧ v.sameAs w = true) ∨
    (∃ v w, a = equalsIgnoreCase v ∧ b = equalsIgnoreCase w ∧ v.sameAs w = true) ∨
    (∃ p q : LikePattern, p.sameAs q = true ∧
      (a = like p ∧ b = like q ∨ a = notLike p ∧ b = notLike q ∨
        a = likeIgnoreCase p ∧ b = likeIgnoreCase q)) ∨
    ∃ p, a = regex p ∧ b = regex p := by
  cases a with
  | ordered i v =>
    cases b with
    | ordered j w =>
      obtain ⟨hij, hvw⟩ := Bool.and_eq_true_iff.mp h
      obtain rfl : i = j := of_decide_eq_true hij
      exact .inl ⟨i, v, w, rfl, rfl, hvw⟩
    | _ => cases h
  | equalsIgnoreCase v =>
    cases b with
    | equalsIgnoreCase w => exact .inr (.inl ⟨v, w, rfl, rfl, h⟩)
    | _ => cases h
  | like p =>
    cases b with
    | like q => exact .inr (.inr (.inl ⟨p, q, h, .inl ⟨rfl, rfl⟩⟩))
    | _ => cases h
  | notLike p =>
    cases b with
    | notLike q => exact .inr (.inr (.inl ⟨p, q, h, .inr (.inl ⟨rfl, rfl⟩)⟩))
    | _ => cases h
  | likeIgnoreCase p =>
    cases b with
    | likeIgnoreCase q => exact .inr (.inr (.inl ⟨p, q, h, .inr (.inr ⟨rfl, rfl⟩)⟩))
    | _ => cases h
  | regex p =>
    cases b with
    | regex q =>
      obtain rfl := RegexPattern.eq_of_sameAs h
      exact .inr (.inr (.inr ⟨p, rfl, rfl⟩))
    | _ => cases h

/-- The wildcard pattern of an operator that has one. -/
def likePattern? : Operator → Option LikePattern
  | like p => some p
  | notLike p => some p
  | likeIgnoreCase p => some p
  | _ => none

/-- Case makes no difference between the wildcard patterns of two operators: both ignore case or
neither does, or no character of theirs has case. -/
def LikeCase (a b : Operator) : Prop :=
  ∀ p q, a.likePattern? = some p → b.likePattern? = some q →
    p.ignoreCase = q.ignoreCase ∨ Caseless (tokens p.pattern.toList)

/-- Tests of texts are alike on all values exactly if they are alike on all texts. -/
theorem onText_congr_iff {test test' : String → Bool} :
    (∀ v, onText test v = onText test' v) ↔ ∀ t, test t = test' t := by
  constructor
  · intro h t
    have htext : Truth.ofBool (test t) = .ofBool (test' t) := h (.str t)
    cases ht : test t <;> cases ht' : test' t <;> simp_all [Truth.ofBool]
  · intro h v
    rw [funext h]

/-- Inequalities with operands that are the same say the same. -/
theorem evaluate_ordered_congr {v w : Value} (h : v.sameAs w = true) (i : Inequality) (u : Value) :
    (ordered i v).evaluate u = (ordered i w).evaluate u := by
  rw [evaluate, evaluate, onOrder, onOrder, Value.compare?_congr h]

theorem evaluate_equalsIgnoreCase_congr {v w : Value} (h : v.sameAs w = true) (u : Value) :
    (equalsIgnoreCase v).evaluate u = (equalsIgnoreCase w).evaluate u := by
  obtain rfl | ⟨x, y, rfl, rfl, -⟩ := Value.eq_or_equals_of_sameAs h
  · rfl
  · have hevaluate : ∀ z, (equalsIgnoreCase (.float z)).evaluate u =
        if u.isNull then .unknown else .ofBool (u.equalsIgnoreCase (.float z)) := fun _ => rfl
    rw [hevaluate, hevaluate, Value.equalsIgnoreCase_congr h]

theorem likeCase_of_none (ha : a.likePattern? = none) : a.LikeCase b := by
  intro p q hp
  rw [ha] at hp
  cases hp

theorem likeCase_iff {p q : LikePattern} (ha : a.likePattern? = some p)
    (hb : b.likePattern? = some q) :
    a.LikeCase b ↔ p.ignoreCase = q.ignoreCase ∨ Caseless (tokens p.pattern.toList) := by
  refine ⟨fun h => h p q ha hb, fun h p' q' ha' hb' => ?_⟩
  obtain rfl := Option.some.inj (ha.symm.trans ha')
  obtain rfl := Option.some.inj (hb.symm.trans hb')
  exact h

/-- **Operators that count as equal evaluate to the same exactly if case makes no difference between
their patterns.** -/
theorem evaluate_eq_iff (h : a.sameAs b = true) :
    (∀ v, a.evaluate v = b.evaluate v) ↔ a.LikeCase b := by
  have hlike : ∀ p q : LikePattern, p.sameAs q = true →
      ((∀ v, onText p.isMatch v = onText q.isMatch v) ↔
        p.ignoreCase = q.ignoreCase ∨ Caseless (tokens p.pattern.toList)) :=
    fun p q hpq => onText_congr_iff.trans (LikePattern.forall_isMatch_eq_iff hpq)
  obtain ⟨i, v, w, rfl, rfl, hvw⟩ | ⟨v, w, rfl, rfl, hvw⟩ |
    ⟨p, q, hpq, ⟨rfl, rfl⟩ | ⟨rfl, rfl⟩ | ⟨rfl, rfl⟩⟩ | ⟨p, rfl, rfl⟩ := cases_of_sameAs h
  · exact iff_of_true (evaluate_ordered_congr hvw i) (likeCase_of_none rfl)
  · exact iff_of_true (evaluate_equalsIgnoreCase_congr hvw) (likeCase_of_none rfl)
  · exact (hlike p q hpq).trans (likeCase_iff rfl rfl).symm
  · refine Iff.trans (forall_congr' fun v => Truth.not_inj) ?_
    exact (hlike p q hpq).trans (likeCase_iff rfl rfl).symm
  · exact (hlike p q hpq).trans (likeCase_iff rfl rfl).symm
  · exact iff_of_true (fun _ => rfl) (likeCase_of_none rfl)

/-- Operators that count as equal are of one kind. -/
theorem kind_eq_of_sameAs (h : a.sameAs b = true) : a.kind = b.kind := by
  obtain ⟨i, v, w, rfl, rfl, -⟩ | ⟨v, w, rfl, rfl, -⟩ |
    ⟨p, q, -, ⟨rfl, rfl⟩ | ⟨rfl, rfl⟩ | ⟨rfl, rfl⟩⟩ | ⟨p, rfl, rfl⟩ := cases_of_sameAs h
  all_goals rfl

/-- **What constructors make ignores case if its kind does.** -/
theorem Constructed.ignoreCase_eq (ha : a.Constructed) {p : LikePattern}
    (hp : a.likePattern? = some p) : p.ignoreCase = decide (a.kind = .likeIgnoreCase) := by
  have hcompile : ∀ {ignoreCase : Bool} {q : LikePattern},
      LikePattern.compile q.pattern ignoreCase = .ok q → q.ignoreCase = ignoreCase := by
    intro ignoreCase q hq
    obtain ⟨q', hq', -, hcase, -⟩ := LikePattern.exists_compile q.pattern ignoreCase
    obtain rfl := Except.ok.inj (hq.symm.trans hq')
    exact hcase
  obtain ⟨i, v, rfl⟩ | ⟨v, rfl⟩ | ⟨q, rfl | rfl, hq⟩ | ⟨q, rfl, hq⟩ := ha.cases
  · cases hp
  · cases hp
  · exact Option.some.inj hp ▸ hcompile hq
  · exact Option.some.inj hp ▸ hcompile hq
  · exact Option.some.inj hp ▸ hcompile hq

/-- So what constructors make may be exchanged for what counts as equal to it. -/
theorem Constructed.evaluate_eq (ha : a.Constructed) (hb : b.Constructed) (h : a.sameAs b = true)
    (v : Value) : a.evaluate v = b.evaluate v := by
  refine (evaluate_eq_iff h).mpr (fun p q hp hq => .inl ?_) v
  rw [ha.ignoreCase_eq hp, hb.ignoreCase_eq hq, kind_eq_of_sameAs h]

/-! ## Fragments -/

/-- The same failure, or fragments that are the same. -/
def SameResult : Except Error Fragment → Except Error Fragment → Prop
  | .ok f, .ok g => f.sameAs g = true
  | .error e, .error e' => e = e'
  | _, _ => False

/-- Two compilations end in the same result and report the same. -/
def CompileAlike (x y : Action Fragment) : Prop :=
  ∀ log, SameResult (x.run.run log).1 (y.run.run log).1 ∧ (x.run.run log).2 = (y.run.run log).2

variable {s : Settings} {column : Column} {f g : Fragment}

theorem CompileAlike.of_sameAs (h : f.sameAs g = true) : CompileAlike (pure f) (pure g) :=
  fun _ => ⟨h, rfl⟩

/-- Equality that ignores case compiles to what is the same as itself, since it is about texts and
not about NaN. -/
@[simp] theorem sameAs_equalsIgnoreCase (escaped : String) :
    (s.equalsIgnoreCase column escaped).sameAs (s.equalsIgnoreCase column escaped) = true := by
  rw [Settings.equalsIgnoreCase]
  split_ifs <;> simp [Fragment.sameAs, Value.sameAs]

theorem sameAs_inequality {v w : Value} (h : v.sameAs w = true) (i : Inequality) :
    (i.fragment column v).sameAs (i.fragment column w) = true := by
  rw [Inequality.fragment, Inequality.fragment, Value.isNull_eq_of_sameAs h]
  split_ifs
  · rfl
  · simp [Fragment.sameAs, h]

/-- Patterns that count as equal are written alike, whatever the case. -/
theorem sameAs_wildcard {p q : LikePattern} (h : p.sameAs q = true) (caseSensitive negated : Bool) :
    (Fragment.wildcard column p.pattern caseSensitive negated).sameAs
      (.wildcard column q.pattern caseSensitive negated) = true := by
  simp [Fragment.sameAs, LikePattern.pattern_eq_of_sameAs h]

/-- What a regular expression compiles to is the same as itself. -/
theorem sameResult_fragment (c : Conversion) :
    SameResult (c.fragment s column) (c.fragment s column) := by
  rw [Conversion.fragment]
  cases c.mode with
  | equals =>
    simp only [SameResult]
    split_ifs
    · simp [Fragment.sameAs, Value.sameAs]
    · exact sameAs_equalsIgnoreCase _
  | like => simp [SameResult, Fragment.sameAs]
  | native =>
    simp only
    split_ifs
    · simp [SameResult, Fragment.sameAs]
    · rfl

theorem compileAlike_equalsIgnoreCase {v w : Value} (h : v.sameAs w = true) :
    CompileAlike ((equalsIgnoreCase v).compile s column)
      ((equalsIgnoreCase w).compile s column) := by
  have hcompare : (Fragment.compare column .equal v).sameAs (.compare column .equal w) = true := by
    simp [Fragment.sameAs, h]
  obtain rfl | ⟨x, y, rfl, rfl, -⟩ := Value.eq_or_equals_of_sameAs h
  · cases v with
    | null => exact .of_sameAs (decide_eq_true rfl)
    | str text => exact .of_sameAs (sameAs_equalsIgnoreCase _)
    | _ => exact .of_sameAs hcompare
  · exact .of_sameAs hcompare

/-- **Operators that count as equal compile to the same.** -/
theorem compileAlike_of_sameAs (h : a.sameAs b = true) (s : Settings) (column : Column) :
    CompileAlike (a.compile s column) (b.compile s column) := by
  obtain ⟨i, v, w, rfl, rfl, hvw⟩ | ⟨v, w, rfl, rfl, hvw⟩ |
    ⟨p, q, hpq, ⟨rfl, rfl⟩ | ⟨rfl, rfl⟩ | ⟨rfl, rfl⟩⟩ | ⟨p, rfl, rfl⟩ := cases_of_sameAs h
  · exact .of_sameAs (sameAs_inequality hvw i)
  · exact compileAlike_equalsIgnoreCase hvw
  · exact .of_sameAs (sameAs_wildcard hpq _ _)
  · exact .of_sameAs (sameAs_wildcard hpq _ _)
  · exact .of_sameAs (sameAs_wildcard hpq _ _)
  · refine fun log => ⟨?_, rfl⟩
    have hrun : ((regex p).compile s column).run.run log = _ := Condition.run_compile_regex p log
    rw [hrun]
    exact sameResult_fragment _

/-- **Operators that count as equal compile to the same for every column and all settings, and
evaluate to the same exactly if case makes no difference between their patterns.** -/
theorem interchangeable_iff (h : a.sameAs b = true) :
    ((∀ v, a.evaluate v = b.evaluate v) ↔ a.LikeCase b) ∧
    ∀ s column, CompileAlike (a.compile s column) (b.compile s column) :=
  ⟨evaluate_eq_iff h, compileAlike_of_sameAs h⟩

/-- Digits have no case, so it makes no difference whether a pattern of digits ignores it. -/
theorem interchangeable_digit : ∃ p q, LikePattern.compile "1%" false = .ok p ∧
    LikePattern.compile "1%" true = .ok q ∧ (like p).sameAs (like q) = true ∧
    (∀ v, (like p).evaluate v = (like q).evaluate v) ∧
    CompileAlike ((like p).compile {} { name := "n" }) ((like q).compile {} { name := "n" }) := by
  obtain ⟨p, hp, hpattern, -⟩ := LikePattern.exists_compile "1%" false
  obtain ⟨q, hq, hpattern', -⟩ := LikePattern.exists_compile "1%" true
  have hsame : (like p).sameAs (like q) = true := by
    simp [sameAs, LikePattern.sameAs, LikePattern.source, hpattern, hpattern']
  have hcase : (like p).LikeCase (like q) := by
    refine (likeCase_iff rfl rfl).mpr (.inr fun c hc d hcd => ?_)
    have htokens : tokens p.pattern.toList = [.literal '1', .anyRun] := by
      rw [hpattern]
      decide
    have hvariants : Text.caseVariants '1' = ['1'] := by decide +kernel
    obtain rfl : c = '1' := by simpa [htokens] using hc
    have hd := Text.mem_caseVariants_iff.mpr hcd.symm
    rw [hvariants, List.mem_singleton] at hd
    exact hd.symm
  obtain ⟨hevaluate, hcompile⟩ := interchangeable_iff hsame
  exact ⟨p, q, hp, hq, hsame, hevaluate.mpr hcase, hcompile _ _⟩

/-- Two patterns of one letter count as equal, though only one of them matches the capital. -/
theorem sameAs_not_evaluate_eq : ∃ p q, LikePattern.compile "a" false = .ok p ∧
    LikePattern.compile "a" true = .ok q ∧ (like p).sameAs (like q) = true ∧
    (like p).evaluate (.str "A") = .fails ∧ (like q).evaluate (.str "A") = .holds :=
  ⟨_, _, rfl, rfl, by decide +kernel, by decide +kernel, by decide +kernel⟩

end Operator

end RecordFilter
