import Mathlib.Data.List.Forall2
import RecordFilter.Filter
import RecordFilter.Proofs.Like.Literal
import RecordFilter.Proofs.Like.Pattern

/-!
# Proofs/Fragment/Reading — fragments say what their conditions say

`Fragment.read` tells what a fragment says about the value of its column, as a query engine with
three truth values would. Without regular expressions, and where equality that ignores case is asked
for by lower-casing, conditions and their fragments agree on every value, but that a query engine
takes two tests with null for failed which have no truth value in memory (`failsOnNull`). So both
select the same records.
-/

namespace RecordFilter

/-! ## What fragments say -/

namespace Fragment

/-- A test without a truth value on null. -/
def onPresent (test : Value → Truth) (v : Value) : Truth := if v.isNull then .unknown else test v

/-- What the fragment says about a value of its column. A pattern that does not compile says
nothing. -/
def read : Fragment → Value → Truth
  | never, _ => .fails
  | isNull _, v => .ofBool v.isNull
  | compare _ .equal x, v => onPresent (fun v => .ofBool (v.equals x)) v
  | compare _ (.inequality i) x, v =>
    onPresent (fun v => .ofOption ((v.compare? x).map i.admits)) v
  | lowerEquals _ text, v =>
    onPresent (fun v => .ofBool (v.asStr?.any fun s => Text.lower s = text)) v
  | wildcard _ pattern caseSensitive negated, v =>
    onPresent (fun v =>
      match LikePattern.compile pattern !caseSensitive with
      | .ok p => .ofBool (p.isMatch v.text != negated)
      | .error _ => .unknown) v
  | regex _ source caseSensitive, v =>
    onPresent (fun v =>
      match RegexPattern.compile source !caseSensitive with
      | .ok p => .ofBool (p.isMatch v.text)
      | .error _ => .unknown) v
  | oneOf _ values orNull, v =>
    if v.isNull then if orNull then .holds else .unknown else .ofBool (values.any v.equals)
  | within _ range, v => onPresent (fun v => .ofOption (range.covers? v)) v

/-- What the fragment says about a record. -/
def readOn {ρ : Type} [Record ρ] (f : Fragment) (record : ρ) : Truth :=
  f.read (match f.column? with
    | some column => Record.valueOf record column.name
    | none => .null)

end Fragment

/-! ## Operators from constructors -/

namespace Operator

/-- The operator comes from a constructor of operators, other than those of regular expressions. -/
inductive Constructed : Operator → Prop
  | gt (v : Value) : Constructed (gt v)
  | lt (v : Value) : Constructed (lt v)
  | gte (v : Value) : Constructed (gte v)
  | lte (v : Value) : Constructed (lte v)
  | equalsIgnoreCase (v : Value) : Constructed (equalsIgnoreCase v)
  | like {pattern o} : ofLike pattern = .ok o → Constructed o
  | notLike {pattern o} : ofNotLike pattern = .ok o → Constructed o
  | likeIgnoreCase {pattern o} : ofLikeIgnoreCase pattern = .ok o → Constructed o
  | startsWith {text o} : startsWith text = .ok o → Constructed o
  | endsWith {text o} : endsWith text = .ok o → Constructed o
  | contains {text o} : contains text = .ok o → Constructed o

/-- What is constructed from a pattern compiles again to itself. -/
theorem exists_pattern_of_map {make : LikePattern → Operator} {pattern : String}
    {ignoreCase : Bool} {o : Operator}
    (h : make <$> LikePattern.compile pattern ignoreCase = .ok o) :
    ∃ p, o = make p ∧ LikePattern.compile p.pattern ignoreCase = .ok p := by
  obtain ⟨p, hp, hpattern, -⟩ := LikePattern.exists_compile pattern ignoreCase
  rw [hp] at h
  exact ⟨p, (Except.ok.inj h).symm, hpattern ▸ hp⟩

/-- **The operators that constructors make.** -/
theorem Constructed.cases {o : Operator} (h : o.Constructed) :
    (∃ i v, o = .ordered i v) ∨ (∃ v, o = .equalsIgnoreCase v) ∨
    (∃ p, (o = .like p ∨ o = .notLike p) ∧ LikePattern.compile p.pattern false = .ok p) ∨
    ∃ p, o = .likeIgnoreCase p ∧ LikePattern.compile p.pattern true = .ok p := by
  have hlike : ∀ {pattern o}, ofLike pattern = .ok o →
      ∃ p, (o = .like p ∨ o = .notLike p) ∧ LikePattern.compile p.pattern false = .ok p :=
    fun h =>
      let ⟨p, ho, hp⟩ := exists_pattern_of_map h
      ⟨p, .inl ho, hp⟩
  cases h with
  | gt v => exact .inl ⟨_, v, rfl⟩
  | lt v => exact .inl ⟨_, v, rfl⟩
  | gte v => exact .inl ⟨_, v, rfl⟩
  | lte v => exact .inl ⟨_, v, rfl⟩
  | equalsIgnoreCase v => exact .inr (.inl ⟨v, rfl⟩)
  | like h => exact .inr (.inr (.inl (hlike h)))
  | notLike h =>
    obtain ⟨p, ho, hp⟩ := exists_pattern_of_map h
    exact .inr (.inr (.inl ⟨p, .inr ho, hp⟩))
  | likeIgnoreCase h =>
    obtain ⟨p, ho, hp⟩ := exists_pattern_of_map h
    exact .inr (.inr (.inr ⟨p, ho, hp⟩))
  | startsWith h => exact .inr (.inr (.inl (hlike h)))
  | endsWith h => exact .inr (.inr (.inl (hlike h)))
  | contains h => exact .inr (.inr (.inl (hlike h)))

end Operator

/-! ## Conditions and their fragments -/

namespace Condition

/-- All operators come from constructors, none from those of regular expressions. -/
def Constructed : Condition → Prop
  | operator o => o.Constructed
  | _ => True

/-- Whether a query engine takes a test for failed that touches null and has no truth value: an
order with null, or equality with null, ignoring case, of a value other than null. -/
def failsOnNull : Condition → Value → Bool
  | operator (.ordered _ operand), _ => operand.isNull
  | operator (.equalsIgnoreCase operand), v => operand.isNull && !v.isNull
  | _, _ => false

/-- The fragment is about the column, if about any, and says on every value what the condition
says, or that it fails on null. -/
structure ReadBy (c : Condition) (column : Column) (f : Fragment) : Prop where
  column_eq : f.column? = some column ∨ f = .never
  read_eq : ∀ v, f.read v = if c.failsOnNull v then .fails else c.evaluate v

end Condition

@[simp] theorem Value.compare?_null (v : Value) : v.compare? .null = none := by
  cases v <;> rfl

@[simp] theorem Value.null_compare? (v : Value) : Value.compare? .null v = none := by
  cases v <;> rfl

theorem Value.eq_null_of_isNull {v : Value} (h : v.isNull = true) : v = .null := by
  cases v with
  | null => rfl
  | _ => cases h

/-- **What fails on null has no truth value in memory.** -/
theorem Condition.evaluate_of_failsOnNull {c : Condition} {v : Value}
    (h : c.failsOnNull v = true) : c.evaluate v = .unknown := by
  cases c with
  | operator o =>
    cases o with
    | ordered i operand =>
      rw [Value.eq_null_of_isNull h]
      simp [evaluate, Operator.evaluate, Operator.onOrder, Truth.ofOption]
    | equalsIgnoreCase operand =>
      obtain ⟨hnull, hv⟩ := Bool.and_eq_true_iff.mp h
      rw [Value.eq_null_of_isNull hnull]
      simpa [evaluate, Operator.evaluate] using hv
    | _ => simp [failsOnNull] at h
  | _ => simp [failsOnNull] at h

namespace Operator

open Condition (ReadBy)

variable {s : Settings} {column : Column}

theorem readBy_ordered (i : Inequality) (operand : Value) :
    ReadBy (.operator (.ordered i operand)) column (i.fragment column operand) := by
  rw [Inequality.fragment]
  split
  · next hnull => exact ⟨.inr rfl, fun v => by simp [Fragment.read, Condition.failsOnNull, hnull]⟩
  · next hnull =>
    refine ⟨.inl rfl, fun v => ?_⟩
    simp only [Fragment.read, Fragment.onPresent, Condition.failsOnNull, hnull]
    split
    · next hv =>
      rw [Value.eq_null_of_isNull hv]
      simp [Condition.evaluate, evaluate, onOrder, Truth.ofOption]
    · rfl

/-- Dropping the escapes of an escaped text gives the text back. -/
@[simp] theorem unescape_escape (text : String) : Like.unescape (Like.escape text) = text := by
  have h := Like.unescapeChars_render_literals text.toList
  rw [Like.render, List.flatMap_map] at h
  rw [Like.unescape, Like.escape, String.toList_ofList]
  exact (congrArg String.ofList h).trans String.ofList_toList

theorem readBy_equalsIgnoreCase_str (hlike : s.useLikeForCompare = false)
    (hcompare : s.sensitiveCompare = true) (text : String) :
    ReadBy (.operator (.equalsIgnoreCase (.str text))) column
      (s.equalsIgnoreCase column (Like.escape text)) := by
  rw [Settings.equalsIgnoreCase, if_neg (by simp [hlike]), if_pos hcompare, unescape_escape]
  refine ⟨.inl rfl, fun v => ?_⟩
  cases v <;> simp [Fragment.read, Fragment.onPresent, Condition.failsOnNull, Condition.evaluate,
    evaluate, Value.isNull, Value.asStr?, Value.equalsIgnoreCase, Value.equals, Value.sameAs]

theorem onText_eq_onPresent (test : String → Bool) (v : Value) :
    onText test v = Fragment.onPresent (fun v => .ofBool (test v.text)) v := by
  cases v <;> rfl

/-- A wildcard match says what its pattern says, turned round where it is negated. -/
theorem read_wildcard {p : LikePattern} {caseSensitive : Bool} (negated : Bool)
    (hp : LikePattern.compile p.pattern (!caseSensitive) = .ok p) (v : Value) :
    (Fragment.wildcard column p.pattern caseSensitive negated).read v =
      if negated then (onText p.isMatch v).not else onText p.isMatch v := by
  simp only [Fragment.read, hp, onText_eq_onPresent, Fragment.onPresent]
  split
  · cases negated <;> rfl
  · cases p.isMatch v.text <;> cases negated <;> rfl

/-- **An operator that a constructor made compiles to a fragment that says what it says.** -/
theorem Constructed.exists_fragment {o : Operator} (ho : o.Constructed)
    (hlike : s.useLikeForCompare = false) (hcompare : s.sensitiveCompare = true)
    (column : Column) :
    ∃ f, o.compile s column = pure f ∧ ReadBy (.operator o) column f := by
  obtain ⟨i, operand, rfl⟩ | ⟨operand, rfl⟩ | ⟨p, rfl | rfl, hp⟩ | ⟨p, rfl, hp⟩ := ho.cases
  · exact ⟨_, rfl, readBy_ordered i operand⟩
  · cases operand with
    | null =>
      refine ⟨_, rfl, .inl rfl, fun v => ?_⟩
      cases v <;> rfl
    | str text => exact ⟨_, rfl, readBy_equalsIgnoreCase_str hlike hcompare text⟩
    | _ =>
      refine ⟨_, rfl, .inl rfl, fun v => ?_⟩
      cases v <;> rfl
  · exact ⟨_, rfl, .inl rfl, read_wildcard false hp⟩
  · exact ⟨_, rfl, .inl rfl, read_wildcard true hp⟩
  · exact ⟨_, rfl, .inl rfl, read_wildcard false hp⟩

end Operator

/-- A value other than null equals no null, so a list may leave out its nulls. -/
theorem any_equals_filter {v : Value} (hv : v.isNull = false) (values : List Value) :
    (values.filter fun x => !x.isNull).any v.equals = values.any v.equals := by
  have hnull : v.equals .null = false := by
    cases v with
    | null => cases hv
    | _ => rfl
  rw [List.any_filter]
  refine List.any_congr rfl fun x => ?_
  cases hx : x.isNull with
  | false => rfl
  | true => simp [Value.eq_null_of_isNull hx, hnull]

/-- **A condition compiles to a fragment that says what it says.** -/
theorem Condition.Constructed.exists_fragment {c : Condition} (hc : c.Constructed) {s : Settings}
    (hlike : s.useLikeForCompare = false) (hcompare : s.sensitiveCompare = true)
    (column : Column) : ∃ f, c.compile s column = pure f ∧ c.ReadBy column f := by
  cases c with
  | isNull => exact ⟨_, rfl, .inl rfl, fun v => rfl⟩
  | equals expected =>
    refine ⟨_, rfl, ?_⟩
    cases hnull : expected.isNull with
    | true => exact ⟨.inl rfl, fun v => by simp [Fragment.read, failsOnNull, evaluate, hnull]⟩
    | false =>
      exact ⟨.inl rfl, fun v => by
        simp [Fragment.read, Fragment.onPresent, failsOnNull, evaluate, hnull]⟩
  | oneOf values =>
    refine ⟨_, rfl, .inl rfl, fun v => ?_⟩
    simp only [Fragment.read, failsOnNull, evaluate, Bool.false_eq_true, if_false]
    split
    · rfl
    · next hv => rw [any_equals_filter (by simpa using hv)]
  | within range =>
    exact ⟨_, rfl, .inl rfl, fun v => rfl⟩
  | operator o => exact Operator.Constructed.exists_fragment hc hlike hcompare column

/-- Work that neither fails nor reports, one piece after the other. -/
theorem exists_mapM_eq_pure {α β : Type} {g : α → Action β} {R : α → β → Prop} : ∀ {l : List α},
    (∀ a ∈ l, ∃ b, g a = pure b ∧ R a b) → ∃ bs, l.mapM g = pure bs ∧ List.Forall₂ R l bs
  | [], _ => ⟨[], rfl, .nil⟩
  | a :: l, h => by
      obtain ⟨b, hb, hr⟩ := h a List.mem_cons_self
      obtain ⟨bs, hbs, hrs⟩ := exists_mapM_eq_pure fun x hx => h x (List.mem_cons_of_mem a hx)
      exact ⟨b :: bs, by simp [List.mapM_cons, hb, hbs], .cons hr hrs⟩

/-! ## Sets of conditions -/

theorem forall_mem_iff_of_forall₂ {α β : Type} {P : α → Prop} {Q : β → Prop} : ∀ {l : List α}
    {bs : List β}, List.Forall₂ (fun a b => P a ↔ Q b) l bs → ((∀ a ∈ l, P a) ↔ ∀ b ∈ bs, Q b)
  | _, _, .nil => by simp
  | _, _, .cons h hs => by simp [h, forall_mem_iff_of_forall₂ hs]

@[simp] theorem Truth.satisfied_false_iff {t : Truth} : t.satisfied false = true ↔ t = .holds := by
  cases t <;> decide

/-- What holds in memory is what its fragment says holds. -/
theorem Condition.ReadBy.holds_iff {c : Condition} {column : Column} {f : Fragment}
    (h : c.ReadBy column f) (v : Value) : c.evaluate v = .holds ↔ f.read v = .holds := by
  rw [h.read_eq]
  split
  · next hnull => simp [evaluate_of_failsOnNull hnull]
  · exact Iff.rfl

/-- A fragment reads from a record what its condition is evaluated on. -/
theorem Condition.ReadBy.readOn_eq {c : Condition} {name : String} {f : Fragment}
    (h : c.ReadBy { name } f) {ρ : Type} [Record ρ] (record : ρ) :
    f.readOn record = f.read (Record.valueOf record name) := by
  rcases h.column_eq with hcolumn | rfl
  · rw [Fragment.readOn, hcolumn]
  · rfl

namespace Conditions

/-- **A set of conditions compiles to one fragment a condition, in order, and each says what its
condition says**, or that it fails where the condition has no truth value on null. The records that
satisfy all conditions are those of which all fragments hold. -/
theorem compile_readOn (cs : Conditions) (hcs : ∀ e ∈ cs.entries, e.2.Constructed) (s : Settings)
    (hlike : s.useLikeForCompare = false) (hcompare : s.sensitiveCompare = true) :
    ∃ fragments, (∀ log, (cs.compile s).run.run log = (.ok fragments, log)) ∧
      ∀ {ρ : Type} [Record ρ],
        (∀ record : ρ, List.Forall₂ (fun e (f : Fragment) =>
          f.readOn record =
            (if e.2.failsOnNull (Record.valueOf record e.1) then .fails
              else e.2.evaluate (Record.valueOf record e.1)) ∧
          (e.2.failsOnNull (Record.valueOf record e.1) = true →
            e.2.evaluate (Record.valueOf record e.1) = .unknown)) cs.entries fragments) ∧
        (∀ record : ρ, cs.keeps false record = true ↔ ∀ f ∈ fragments, f.readOn record = .holds) ∧
        ∀ (records : List ρ) log, ((cs.matching records).run log).1 =
          records.filter fun record => fragments.all fun f => f.readOn record = .holds := by
  obtain ⟨fragments, hcompile, hread⟩ := exists_mapM_eq_pure fun e he =>
    (hcs e he).exists_fragment hlike hcompare { name := e.1 }
  have hpure : cs.compile s = pure fragments := hcompile
  have hkeeps : ∀ {ρ : Type} [Record ρ] (record : ρ),
      cs.keeps false record = true ↔ ∀ f ∈ fragments, f.readOn record = .holds := by
    intro ρ _ record
    simp only [keeps, evaluate, Bool.false_eq_true, if_false, List.all_map, List.all_eq_true,
      Function.comp, Truth.satisfied_false_iff]
    refine forall_mem_iff_of_forall₂ (hread.imp fun e f h => ?_)
    rw [h.readOn_eq]
    exact h.holds_iff _
  refine ⟨fragments, fun log => by rw [hpure]; rfl, fun {ρ} _ => ⟨fun record => ?_, hkeeps, ?_⟩⟩
  · refine hread.imp fun e f h => ⟨?_, Condition.evaluate_of_failsOnNull⟩
    rw [h.readOn_eq, h.read_eq]
  · intro records log
    refine List.filter_congr fun record _ => ?_
    rw [Bool.eq_iff_iff, hkeeps]
    simp

/-- An order with null, equality that ignores case, and a pattern. -/
theorem compile_readOn_three : ∃ o, Operator.startsWith "a" = .ok o ∧ ∃ cs : Conditions,
    cs.entries = [("size", .operator (.gt .null)),
      ("name", .operator (.equalsIgnoreCase (.str "Big"))), ("path", .operator o)] ∧
    ∃ fragments, (∀ log, (cs.compile {}).run.run log = (.ok fragments, log)) ∧
      ∀ record : Row, cs.keeps false record = true ↔ ∀ f ∈ fragments, f.readOn record = .holds := by
  obtain ⟨p, hp, -⟩ := LikePattern.exists_compile (Like.escape "a" ++ "%") false
  have ho : Operator.startsWith "a" = .ok (.like p) := by
    rw [Operator.startsWith, Operator.ofLike, hp]
    rfl
  have hnodup : ["size", "name", "path"].Nodup := by decide
  let cs : Conditions := ⟨[("size", .operator (.gt .null)),
    ("name", .operator (.equalsIgnoreCase (.str "Big"))), ("path", .operator (.like p))], hnodup⟩
  have hcs : ∀ e ∈ cs.entries, e.2.Constructed := by
    rintro e (_ | ⟨_, _ | ⟨_, _ | ⟨_, he⟩⟩⟩)
    · exact .gt .null
    · exact .equalsIgnoreCase _
    · exact .startsWith ho
    · cases he
  obtain ⟨fragments, hcompile, hread⟩ := compile_readOn cs hcs {} rfl rfl
  exact ⟨.like p, ho, cs, rfl, fragments, hcompile, hread.2.1⟩

end Conditions

end RecordFilter
