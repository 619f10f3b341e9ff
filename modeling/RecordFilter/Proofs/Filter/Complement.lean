import RecordFilter.Proofs.Filter.Composition
import RecordFilter.Proofs.Like.Pattern
import RecordFilter.Proofs.Value.Order

/-!
# Proofs/Filter/Complement — conditions that are each other's negation

Two conditions are **complementary** if the negated filter by either of them keeps what the plain
filter by the other one keeps. They are so exactly if on every value one says the negation of the
other, and unknown where that is unknown (`complementary_iff`). An inequality and its complement are
complementary, since an order satisfies one of the two and a missing order neither
(`onOrder_complement`); so are a pattern and its negation. The converse of an inequality says of the
two values in the other order what the inequality says of them (`onOrder_converse`).
-/

namespace RecordFilter

/-! ## Inequalities -/

namespace Inequality

/-- The inequality that an order satisfies where it does not satisfy this one. -/
def complement : Inequality → Inequality
  | gt => lte
  | lt => gte
  | gte => lt
  | lte => gt

/-- The inequality with its sides exchanged. -/
def converse : Inequality → Inequality
  | gt => lt
  | lt => gt
  | gte => lte
  | lte => gte

@[simp] theorem admits_complement (i : Inequality) (o : Ordering) :
    i.complement.admits o = !i.admits o := by
  cases i <;> cases o <;> rfl

@[simp] theorem admits_converse_swap (i : Inequality) (o : Ordering) :
    i.converse.admits o.swap = i.admits o := by
  cases i <;> cases o <;> rfl

end Inequality

@[simp] theorem Truth.ofOption_map_not (answer : Option Bool) :
    ofOption (answer.map (!·)) = (ofOption answer).not := by
  rcases answer with _ | _ | _ <;> rfl

namespace Operator

variable {v w : Value}

/-- **The complement says the negation**, and unknown where the inequality says so: null and NaN
have no order in either. -/
@[simp] theorem onOrder_complement (i : Inequality) (v w : Value) :
    onOrder i.complement v w = (onOrder i v w).not := by
  rw [onOrder, onOrder, ← Truth.ofOption_map_not, Option.map_map]
  exact congrArg (fun admits => Truth.ofOption ((v.compare? w).map admits))
    (funext i.admits_complement)

/-- **The converse says the same of the two values in the other order.** -/
theorem onOrder_converse (i : Inequality) (v w : Value) :
    onOrder i.converse w v = onOrder i v w := by
  rw [onOrder, onOrder, Value.compare?_swap v w, Option.map_map]
  exact congrArg (fun admits => Truth.ofOption ((v.compare? w).map admits))
    (funext i.admits_converse_swap)

end Operator

/-! ## Complementary conditions -/

/-- The set of one condition. -/
def Conditions.single (field : String) (c : Condition) : Conditions := .ofList [(field, c)]

@[simp] theorem Conditions.keeps_single {ρ : Type} [Record ρ] (field : String) (c : Condition)
    (negate : Bool) (record : ρ) : (single field c).keeps negate record =
      (c.evaluate (Record.valueOf record field)).satisfied negate := by
  cases negate with
  | false => exact Bool.and_true _
  | true => exact Bool.or_false _

namespace Condition

/-- The negated filter by either of the two conditions on a field keeps what the plain filter by the
other one keeps. -/
def Complementary (c d : Condition) : Prop :=
  ∀ {ρ : Type} [Record ρ] (records : List ρ) (field : String) (log : List Event),
    (((Conditions.single field c).notMatching records).run log).1 =
      (((Conditions.single field d).matching records).run log).1 ∧
    (((Conditions.single field d).notMatching records).run log).1 =
      (((Conditions.single field c).matching records).run log).1

variable {c d : Condition}

/-- Where a condition says the negation of another one, it is satisfied where that one fails. -/
theorem notMatching_eq_matching (h : ∀ v, d.evaluate v = (c.evaluate v).not) {ρ : Type} [Record ρ]
    (records : List ρ) (field : String) (log : List Event) :
    (((Conditions.single field c).notMatching records).run log).1 =
      (((Conditions.single field d).matching records).run log).1 := by
  refine List.filter_congr fun record _ => ?_
  rw [Conditions.keeps_single, Conditions.keeps_single, h]
  cases c.evaluate (Record.valueOf record field) <;> rfl

/-- Conditions that keep the same of the row that holds a value are both satisfied by the value or
both not. -/
theorem satisfied_eq_of_filter_eq {v : Value} {n m : Bool}
    (h : ∀ row : Row, [row].filter ((Conditions.single "" c).keeps n) =
      [row].filter ((Conditions.single "" d).keeps m)) :
    (c.evaluate v).satisfied n = (d.evaluate v).satisfied m := by
  let row : Row := FieldMap.ofList [("", v)]
  have hvalue : Record.valueOf row "" = v := rfl
  have hmem : ∀ keeps : Row → Bool, row ∈ [row].filter keeps ↔ keeps row = true := by simp
  have hkeeps : (Conditions.single "" c).keeps n row = true ↔
      (Conditions.single "" d).keeps m row = true := by
    rw [← hmem, ← hmem, h row]
  rwa [Conditions.keeps_single, Conditions.keeps_single, hvalue, ← Bool.eq_iff_iff] at hkeeps

/-- **Complementary conditions are each other's negation.** -/
theorem complementary_iff : c.Complementary d ↔ ∀ v, d.evaluate v = (c.evaluate v).not := by
  constructor
  · intro h v
    have hfails : (c.evaluate v).satisfied true = (d.evaluate v).satisfied false :=
      satisfied_eq_of_filter_eq fun row => (h [row] "" []).1
    have hholds : (d.evaluate v).satisfied true = (c.evaluate v).satisfied false :=
      satisfied_eq_of_filter_eq fun row => (h [row] "" []).2
    revert hfails hholds
    cases c.evaluate v <;> cases d.evaluate v <;> decide
  · intro h ρ _ records field log
    have hnot : ∀ v, c.evaluate v = (d.evaluate v).not := by simp [h]
    exact ⟨notMatching_eq_matching h records field log,
      notMatching_eq_matching hnot records field log⟩

theorem complementary_ordered (i : Inequality) (x : Value) :
    (operator (.ordered i x)).Complementary (operator (.ordered i.complement x)) := by
  rw [complementary_iff]
  intro v
  exact Operator.onOrder_complement i v x

/-- **Complements, negated, keep the same records.** The negated filter by an inequality or a
pattern keeps what the plain filter by its complement keeps, and the other way round: a value that
is null or has no order with the operand is kept by neither. What an inequality says of two values
its converse says of them in the other order. -/
theorem complement_pairs :
    (∀ x, (operator (.gt x)).Complementary (operator (.lte x)) ∧
      (operator (.lt x)).Complementary (operator (.gte x))) ∧
    (∀ p, (operator (.like p)).Complementary (operator (.notLike p))) ∧
    (∀ pattern, ∃ p, Operator.ofLike pattern = .ok (.like p) ∧
      Operator.ofNotLike pattern = .ok (.notLike p)) ∧
    ∀ v x, (Operator.gt x).evaluate v = (Operator.lt v).evaluate x ∧
      (Operator.gte x).evaluate v = (Operator.lte v).evaluate x := by
  refine ⟨fun x => ⟨complementary_ordered .gt x, complementary_ordered .lt x⟩,
    fun p => complementary_iff.mpr fun v => rfl, fun pattern => ?_, fun v x => ⟨?_, ?_⟩⟩
  · obtain ⟨p, hp, -⟩ := LikePattern.exists_compile pattern false
    exact ⟨p, by rw [Operator.ofLike, hp]; rfl, by rw [Operator.ofNotLike, hp]; rfl⟩
  · exact (Operator.onOrder_converse .gt v x).symm
  · exact (Operator.onOrder_converse .gte v x).symm

end Condition

end RecordFilter
