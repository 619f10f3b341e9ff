import RecordFilter.Proofs.Condition.Nulls

/-!
# Proofs/Condition/Membership — one of a list is equality with any of its members

Membership in a list holds where equality with one of the members holds, and fails where equality
with each of them fails (`evaluate_oneOf_eq_holds_iff`, `evaluate_oneOf_eq_fails_iff`). Equality
with null asks for null, and every other equality is unknown of it; so nulls on either side are no
exception. Membership is the disjunction of these equalities, and neither the order nor the
repetition of members makes a difference. The fragment keeps nulls apart from the other members and
says the same.
-/

namespace RecordFilter

/-! ## Disjunction in three-valued logic -/

namespace Truth

variable {a b t : Truth} {ts : List Truth}

/-- A disjunction holds if one side does. -/
@[simp] theorem or_eq_holds_iff : a.or b = holds ↔ a = holds ∨ b = holds := by
  cases a <;> cases b <;> decide

@[simp] theorem or_eq_fails_iff : a.or b = fails ↔ a = fails ∧ b = fails := by
  cases a <;> cases b <;> decide

@[simp] theorem any_cons : any (t :: ts) = t.or (any ts) := rfl

/-- **One success makes a disjunction hold**, whatever is unknown beside it. -/
@[simp] theorem any_eq_holds_iff : any ts = holds ↔ holds ∈ ts := by
  induction ts with
  | nil => simp [any]
  | cons t ts ih => simp [ih, eq_comm (a := holds)]

/-- A disjunction fails if all its parts do. -/
@[simp] theorem any_eq_fails_iff : any ts = fails ↔ ∀ t ∈ ts, t = fails := by
  induction ts with
  | nil => simp [any]
  | cons t ts ih => simp [ih]

/-- A truth value is known by when it holds and when it fails. -/
theorem eq_of_iff (hholds : a = holds ↔ b = holds) (hfails : a = fails ↔ b = fails) : a = b := by
  revert hholds hfails
  cases a <;> cases b <;> decide

end Truth

/-! ## Membership -/

namespace Condition

variable {v : Value} {values : List Value}

/-- Of a value other than null every equality has an answer; that with null is no. -/
theorem evaluate_equals_of_ne_null (hv : v ≠ .null) (w : Value) :
    (equals w).evaluate v = .ofBool (v.equals w) := by
  rcases eq_or_ne w .null with rfl | hw
  · cases v with
    | null => exact absurd rfl hv
    | _ => rfl
  · exact (if_neg (mt Value.eq_null_of_isNull hw)).trans (if_neg (mt Value.eq_null_of_isNull hv))

/-- Of a value other than null membership has an answer, even if there are nulls in the list. -/
theorem evaluate_oneOf_of_ne_null (hv : v ≠ .null) :
    (oneOf values).evaluate v = .ofBool (values.any v.equals) :=
  if_neg (mt Value.eq_null_of_isNull hv)

/-- **Membership holds where one of the equalities does.** -/
theorem evaluate_oneOf_eq_holds_iff :
    (oneOf values).evaluate v = .holds ↔ ∃ w ∈ values, (equals w).evaluate v = .holds := by
  rcases eq_or_ne v .null with rfl | hv
  · simp [admitsNull]
  · simp [evaluate_oneOf_of_ne_null hv, evaluate_equals_of_ne_null hv]

/-- **Membership fails where each of the equalities does.** Null is not a member of the empty list,
nor is it known to be none. -/
theorem evaluate_oneOf_eq_fails_iff (h : values ≠ []) :
    (oneOf values).evaluate v = .fails ↔ ∀ w ∈ values, (equals w).evaluate v = .fails := by
  rcases eq_or_ne v .null with rfl | hv
  · obtain ⟨w, hw⟩ := List.exists_mem_of_ne_nil values h
    exact iff_of_false (evaluate_null_ne_fails _) fun hall => evaluate_null_ne_fails _ (hall w hw)
  · simp [evaluate_oneOf_of_ne_null hv, evaluate_equals_of_ne_null hv]

/-- **Membership in a list that is not empty is the disjunction of the equalities.** -/
theorem evaluate_oneOf (h : values ≠ []) (v : Value) :
    (oneOf values).evaluate v = .any (values.map fun w => (equals w).evaluate v) := by
  refine Truth.eq_of_iff ?_ ?_
  · simp [evaluate_oneOf_eq_holds_iff]
  · simp [evaluate_oneOf_eq_fails_iff h]

/-- Only the members count, not their order or repetition. -/
theorem evaluate_oneOf_congr {others : List Value} (h : ∀ w, w ∈ values ↔ w ∈ others) (v : Value) :
    (oneOf values).evaluate v = (oneOf others).evaluate v := by
  have hany : ∀ test : Value → Bool, values.any test = others.any test := by
    intro test
    rw [Bool.eq_iff_iff, List.any_eq_true, List.any_eq_true]
    simp only [h]
  rw [evaluate, evaluate, hany, hany]

/-- Two ways to say that nulls are left out. -/
theorem filter_ne_null (values : List Value) :
    (values.filter fun w => !w.isNull) = values.filter (· ≠ .null) := by
  refine List.filter_congr fun w _ => ?_
  rw [Bool.eq_iff_iff]
  simp

/-- The fragment of a list says of every value what the list says. -/
theorem read_oneOf (column : Column) (values : List Value) (v : Value) :
    (Fragment.oneOf column (values.filter (· ≠ .null)) (values.any Value.isNull)).read v =
      (oneOf values).evaluate v := by
  rw [Fragment.read, evaluate, ← filter_ne_null]
  split
  · rfl
  · next hv => rw [any_equals_filter (Bool.eq_false_iff.mpr hv)]

/-- **Membership is a disjunction of equalities.** In a list that is not empty it is the
disjunction, in three-valued logic, of the equalities with each member, so only the members count
and not their order or repetition. The fragment has the members other than null, in order, and
remembers whether there was a null; it says of every value what the condition says. -/
theorem oneOf_eq_any :
    (∀ values, values ≠ [] → ∀ v,
      (oneOf values).evaluate v = .any (values.map fun w => (equals w).evaluate v)) ∧
    (∀ values others, (∀ w, w ∈ values ↔ w ∈ others) → ∀ v,
      (oneOf values).evaluate v = (oneOf others).evaluate v) ∧
    ∀ values (s : Settings) column, ∃ orNull,
      (∀ log, ((oneOf values).compile s column).run.run log =
        (.ok (.oneOf column (values.filter (· ≠ .null)) orNull), log)) ∧
      (orNull = true ↔ .null ∈ values) ∧
      ∀ v, (Fragment.oneOf column (values.filter (· ≠ .null)) orNull).read v =
        (oneOf values).evaluate v := by
  refine ⟨fun values h => evaluate_oneOf h, fun values others h => evaluate_oneOf_congr h, ?_⟩
  intro values s column
  refine ⟨values.any Value.isNull, fun log => ?_, ?_, read_oneOf column values⟩
  · rw [← filter_ne_null]
    rfl
  · simp

/-- A list with a null and both kinds of numbers: an integer equals the double among the members,
the order of members makes no difference, and the fragment keeps the null apart. -/
theorem oneOf_eq_any_mixed :
    let values := [.null, .float ⟨0x4000000000000000⟩, .str "a"]
    let others := [.str "a", .float ⟨0x4000000000000000⟩, .null, .str "a"]
    values ≠ [] ∧ (oneOf values).evaluate (.int 2) = .any [.fails, .holds, .fails] ∧
    (∀ w, w ∈ values ↔ w ∈ others) ∧
      (oneOf values).evaluate .null = (oneOf others).evaluate .null := by
  intro values others
  obtain ⟨hany, hmembers, -⟩ := oneOf_eq_any
  have hsame : ∀ w, w ∈ values ↔ w ∈ others := by
    intro w
    simp only [values, others, List.mem_cons, List.not_mem_nil, or_false]
    tauto
  refine ⟨List.cons_ne_nil _ _, (hany values (List.cons_ne_nil _ _) _).trans ?_, hsame,
    hmembers values others hsame .null⟩
  decide +kernel

end Condition

end RecordFilter
