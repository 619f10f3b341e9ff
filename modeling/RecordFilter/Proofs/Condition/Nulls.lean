import RecordFilter.Proofs.Filter.Composition
import RecordFilter.Proofs.Fragment.Reading
import RecordFilter.Proofs.Value.Order

/-!
# Proofs/Condition/Nulls — null is never evidence

Null satisfies the conditions that ask for it and says nothing about all others: no condition fails
on it (`evaluate_null`). A value other than null settles every condition, unless it has to be
ordered with something that it has no order with, or is compared with null ignoring case
(`evaluate_eq_unknown_iff`). So a negated filter, which keeps what fails, keeps no record whose
tested fields are all null or missing.
-/

namespace RecordFilter

variable {v w : Value}

/-! ## Values without an order -/

namespace Value

/-- What can be ordered with one another: numbers, texts and truth values. -/
inductive Kind
  | number
  | text
  | truth
deriving DecidableEq

/-- The kind of a value; null has none. -/
def kind? : Value → Option Kind
  | null => none
  | bool _ => some .truth
  | int _ => some .number
  | float _ => some .number
  | str _ => some .text

/-- Whether the value is a double that denotes nothing. -/
def isNaN : Value → Bool
  | float x => x.isNaN
  | _ => false

/-- The test for null, as an equation. -/
@[simp] theorem isNull_iff : v.isNull = true ↔ v = null :=
  ⟨eq_null_of_isNull, fun h => h ▸ rfl⟩

@[simp] theorem isNull_eq_false_iff : v.isNull = false ↔ v ≠ null := by
  rw [← Bool.not_eq_true, isNull_iff]

/-- **A value has no order with null, with another kind, and with NaN**, and NaN has none. -/
theorem compare?_eq_none_iff (hv : v ≠ null) : v.compare? w = none ↔
    w = null ∨ w.kind? ≠ v.kind? ∨ v.isNaN = true ∨ w.isNaN = true := by
  rw [← Option.not_isSome_iff_eq_none, isSome_compare?_iff]
  cases v with
  | null => exact absurd rfl hv
  | _ => cases w <;> simp [kind?, isNaN, isNumber, imp_iff_not_or]

end Value

/-! ## Null -/

namespace Condition

/-- Whether null is what the condition asks for. -/
def admitsNull : Condition → Bool
  | isNull => true
  | equals expected => expected.isNull
  | oneOf values => values.any Value.isNull
  | operator (.equalsIgnoreCase operand) => operand.isNull
  | _ => false

/-- **The four conditions that ask for null.** -/
theorem admitsNull_iff {c : Condition} : c.admitsNull = true ↔
    c = isNull ∨ c = equals .null ∨ (∃ values, c = oneOf values ∧ .null ∈ values) ∨
      c = operator (.equalsIgnoreCase .null) := by
  cases c with
  | isNull => simp [admitsNull]
  | equals e => simp [admitsNull]
  | oneOf values => simp [admitsNull]
  | within r => simp [admitsNull]
  | operator o =>
    cases o with
    | equalsIgnoreCase e => simp [admitsNull]
    | _ => simp [admitsNull]

/-- **Null holds where it is asked for, and is unknown everywhere else.** -/
theorem evaluate_null (c : Condition) :
    c.evaluate .null = if c.admitsNull then .holds else .unknown := by
  cases c with
  | isNull => rfl
  | equals e => cases e <;> rfl
  | oneOf values => rfl
  | within r => rfl
  | operator o =>
    cases o with
    | ordered i w => cases w <;> rfl
    | equalsIgnoreCase w => cases w <;> rfl
    | _ => rfl

/-- **No condition fails on null.** -/
@[simp] theorem evaluate_null_ne_fails (c : Condition) : c.evaluate .null ≠ .fails := by
  rw [c.evaluate_null]
  split <;> nofun

@[simp] theorem evaluate_null_eq_holds_iff {c : Condition} :
    c.evaluate .null = .holds ↔ c.admitsNull = true := by
  rw [c.evaluate_null]
  cases c.admitsNull <;> decide

end Condition

/-! ## Values other than null -/

@[simp] theorem Truth.ofBool_ne_unknown (b : Bool) : ofBool b ≠ unknown := by
  cases b <;> decide

@[simp] theorem Truth.ofOption_eq_unknown_iff {answer : Option Bool} :
    ofOption answer = unknown ↔ answer = none := by
  cases answer with
  | none => exact iff_of_true rfl rfl
  | some b => exact iff_of_false (ofBool_ne_unknown b) nofun

namespace Bound

/-- The value at a bound, if it has one. -/
def value? : Bound → Option Value
  | included v => some v
  | excluded v => some v
  | unbounded => none

theorem startAdmits_eq_none_iff (b : Bound) :
    b.startAdmits v = none ↔ ∃ w ∈ b.value?.toList, v.compare? w = none := by
  cases b <;> simp [startAdmits, value?]

theorem stopAdmits_eq_none_iff (b : Bound) :
    b.stopAdmits v = none ↔ ∃ w ∈ b.value?.toList, v.compare? w = none := by
  cases b <;> simp [stopAdmits, value?]

end Bound

/-- The values at the ends of a range. -/
def Range.bounds (r : Range) : List Value := r.start.value?.toList ++ r.stop.value?.toList

/-- A value is neither inside nor outside exactly if it has no order with one of the bounds. -/
theorem Range.covers?_eq_none_iff {r : Range} :
    r.covers? v = none ↔ ∃ w ∈ r.bounds, v.compare? w = none := by
  simp only [bounds, List.mem_append, or_and_right, exists_or]
  rw [← r.start.startAdmits_eq_none_iff, ← r.stop.stopAdmits_eq_none_iff, covers?]
  cases r.start.startAdmits v <;> cases r.stop.stopAdmits v <;> simp

/-- An inequality is unknown exactly where there is no order. -/
theorem Operator.onOrder_eq_unknown_iff {i : Inequality} :
    onOrder i v w = .unknown ↔ v.compare? w = none :=
  Truth.ofOption_eq_unknown_iff.trans Option.map_eq_none_iff

namespace Condition

/-- The values that the condition orders with: the operand of an inequality, or the bounds of a
range. -/
def orderedWith : Condition → List Value
  | operator (.ordered _ operand) => [operand]
  | within range => range.bounds
  | _ => []

/-- A condition that orders with nothing, but has one of two answers, is settled. -/
theorem evaluate_eq_unknown_iff_of_ofBool {c : Condition} {answer : Bool}
    (h : c.evaluate v = .ofBool answer) (hordered : c.orderedWith = [])
    (hne : c ≠ operator (.equalsIgnoreCase .null)) : c.evaluate v = .unknown ↔
      (∃ w ∈ c.orderedWith, v.compare? w = none) ∨ c = operator (.equalsIgnoreCase .null) := by
  rw [h, hordered]
  exact iff_of_false (Truth.ofBool_ne_unknown answer) (by simpa using hne)

/-- **A value other than null settles every condition that it has an order for**, but equality with
null, ignoring case. -/
theorem evaluate_eq_unknown_iff {c : Condition} (hv : v ≠ .null) : c.evaluate v = .unknown ↔
    (∃ w ∈ c.orderedWith, v.compare? w = none) ∨ c = operator (.equalsIgnoreCase .null) := by
  have hnull : ¬ v.isNull = true := mt Value.eq_null_of_isNull hv
  cases c with
  | isNull => exact evaluate_eq_unknown_iff_of_ofBool rfl rfl nofun
  | equals e =>
    by_cases he : e.isNull = true
    · exact evaluate_eq_unknown_iff_of_ofBool (if_pos he) rfl nofun
    · exact evaluate_eq_unknown_iff_of_ofBool ((if_neg he).trans (if_neg hnull)) rfl nofun
  | oneOf values => exact evaluate_eq_unknown_iff_of_ofBool (if_neg hnull) rfl nofun
  | within r =>
    have hwithin : (within r).evaluate v = .ofOption (r.covers? v) := if_neg hnull
    rw [hwithin, Truth.ofOption_eq_unknown_iff, Range.covers?_eq_none_iff, orderedWith]
    exact (or_iff_left nofun).symm
  | operator o =>
    have htext : ∀ test, Operator.onText test v = .ofBool (test v.text) := fun test =>
      (Operator.onText_eq_onPresent test v).trans (if_neg hnull)
    cases o with
    | ordered i w =>
      have hoperand : (∃ x ∈ [w], v.compare? x = none) ↔ v.compare? w = none := by simp
      rw [orderedWith, hoperand]
      exact Operator.onOrder_eq_unknown_iff.trans (or_iff_left nofun).symm
    | equalsIgnoreCase w =>
      cases w with
      | null => exact iff_of_true (if_neg hnull) (.inr rfl)
      | _ => exact evaluate_eq_unknown_iff_of_ofBool (if_neg hnull) rfl nofun
    | like p => exact evaluate_eq_unknown_iff_of_ofBool (htext p.isMatch) rfl nofun
    | notLike p =>
      exact evaluate_eq_unknown_iff_of_ofBool
        ((congrArg Truth.not (htext p.isMatch)).trans (Truth.not_ofBool _)) rfl nofun
    | likeIgnoreCase p => exact evaluate_eq_unknown_iff_of_ofBool (htext p.isMatch) rfl nofun
    | regex p => exact evaluate_eq_unknown_iff_of_ofBool (htext p.isMatch) rfl nofun

end Condition

/-! ## Records -/

/-- **A negated filter keeps only records that have a value in a tested field.** -/
theorem Conditions.exists_value_of_keeps_true {ρ : Type} [Record ρ] {cs : Conditions} {record : ρ}
    (h : cs.keeps true record = true) :
    ∃ name ∈ cs.names, ∃ v, Record.field? record name = some v ∧ v ≠ .null := by
  obtain ⟨⟨name, c⟩, he, hfails⟩ := keeps_true_iff.mp h
  have hne : Record.valueOf record name ≠ .null := by
    intro hnull
    have hevaluate := Truth.satisfied_iff.mp hfails
    rw [hnull] at hevaluate
    exact c.evaluate_null_ne_fails hevaluate
  refine ⟨name, FieldMap.mem_names_of_mem he, ?_⟩
  cases hfield : Record.field? record name with
  | none => exact absurd (congrArg Value.ofOption hfield) hne
  | some v =>
    refine ⟨v, rfl, fun hv => hne ?_⟩
    rw [Record.valueOf, hfield, hv]
    rfl

namespace Condition

/-- **Null is never evidence.** No condition fails on null, and only those hold of it that ask for
it. What is unknown about any other value has to be ordered with null, with another kind or with
NaN, on either side, or is compared with null ignoring case. So a record that a negated filter keeps
has a value other than null in one of the tested fields. -/
theorem null_never_fails :
    (∀ c : Condition, c.evaluate .null ≠ .fails ∧ (c.evaluate .null = .holds ↔
      c = isNull ∨ c = equals .null ∨ (∃ values, c = oneOf values ∧ .null ∈ values) ∨
        c = operator (.equalsIgnoreCase .null))) ∧
    (∀ (c : Condition) (v : Value), v ≠ .null → (c.evaluate v = .unknown ↔
      (∃ w ∈ c.orderedWith, w = .null ∨ w.kind? ≠ v.kind? ∨ v.isNaN = true ∨ w.isNaN = true) ∨
        c = operator (.equalsIgnoreCase .null))) ∧
    ∀ {ρ : Type} [Record ρ] (cs : Conditions) (records : List ρ) (log : List Event),
      ∀ record ∈ ((cs.notMatching records).run log).1,
        ∃ name ∈ cs.names, ∃ v, Record.field? record name = some v ∧ v ≠ .null := by
  refine ⟨fun c => ⟨c.evaluate_null_ne_fails, evaluate_null_eq_holds_iff.trans admitsNull_iff⟩,
    fun c v hv => ?_, fun cs records log record hrecord => ?_⟩
  · simp only [evaluate_eq_unknown_iff hv, Value.compare?_eq_none_iff hv]
  · exact Conditions.exists_value_of_keeps_true (List.mem_filter.mp hrecord).2

/-- A number is neither inside nor outside a range that ends with a text. Beside records without a
size, the negated filter keeps one whose size is too small. -/
theorem null_never_fails_sizes :
    .int 5 ≠ Value.null ∧ (within (.inclusive (.int 1) (.str "a"))).evaluate (.int 5) = .unknown ∧
    let cs : Conditions := FieldMap.ofList [("size", .operator (.gt (.int 5)))]
    let row (l : List (String × Value)) : Row := FieldMap.ofList l
    let small := row [("size", .int 3)]
    small ∈ ((cs.notMatching [row [("size", .null)], row [], small]).run []).1 ∧
      ∃ name ∈ cs.names, ∃ v, Record.field? small name = some v ∧ v ≠ .null := by
  obtain ⟨-, hunknown, hkept⟩ := null_never_fails
  have hne : .int 5 ≠ Value.null := by decide
  refine ⟨hne, (hunknown _ _ hne).mpr (.inl ⟨.str "a", by decide, .inr (.inl (by decide))⟩), ?_⟩
  intro cs row small
  have hmem : small ∈ ((cs.notMatching [row [("size", .null)], row [], small]).run []).1 :=
    List.mem_filter.mpr ⟨by simp, by decide +kernel⟩
  exact ⟨hmem, hkept cs _ _ small hmem⟩

end Condition

end RecordFilter
