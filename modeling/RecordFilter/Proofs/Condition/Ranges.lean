import RecordFilter.Proofs.Condition.Nulls

/-!
# Proofs/Condition/Ranges — a range is a test at each end, and convex

Each bound of a range stands for one test of a value, `startTest` or `stopTest`. The range says what
the two tests together say, and nothing as soon as one of them says nothing (`evaluate_within`).
Upwards in the order of values the first test goes on holding, downwards the second one
(`startAdmits_of_atMost`, `stopAdmits_of_atMost`), so what lies between two values of a range lies
in it.
-/

namespace RecordFilter

variable {u v w : Value}

/-! ## The tests of the bounds -/

namespace Bound

/-- The test that a bound makes at the start of a range. -/
def startTest : Bound → Value → Truth
  | included s => (Operator.gte s).evaluate
  | excluded s => (Operator.gt s).evaluate
  | unbounded => fun _ => .holds

/-- The test that a bound makes at the end of a range. -/
def stopTest : Bound → Value → Truth
  | included s => (Operator.lte s).evaluate
  | excluded s => (Operator.lt s).evaluate
  | unbounded => fun _ => .holds

/-- The test at the start says whether the bound admits the value, and nothing where they have no
order. -/
theorem startTest_eq (b : Bound) (v : Value) : b.startTest v = .ofOption (b.startAdmits v) := by
  cases b <;> rfl

theorem stopTest_eq (b : Bound) (v : Value) : b.stopTest v = .ofOption (b.stopAdmits v) := by
  cases b <;> rfl

end Bound

/-- **A range says what its two tests say together**, and nothing if one of them says nothing. -/
theorem Condition.evaluate_within (r : Range) (hv : v ≠ .null) : (within r).evaluate v =
    if r.start.startTest v = .unknown ∨ r.stop.stopTest v = .unknown then .unknown
    else if r.start.startTest v = .holds ∧ r.stop.stopTest v = .holds then .holds else .fails := by
  have hwithin : (within r).evaluate v = .ofOption (r.covers? v) :=
    if_neg (mt Value.eq_null_of_isNull hv)
  rw [hwithin, Bound.startTest_eq, Bound.stopTest_eq, Range.covers?]
  rcases r.start.startAdmits v with _ | p
  · rfl
  · rcases r.stop.stopAdmits v with _ | q
    · exact (if_pos (.inr rfl)).symm
    · cases p <;> cases q <;> rfl

/-! ## Convexity -/

/-- The two values have an order, and the first one does not come after the second. -/
def Value.AtMost (v w : Value) : Prop := v.compare? w = some .lt ∨ v.compare? w = some .eq

namespace Value

/-- Chains of values without a missing order are transitive. -/
theorem AtMost.trans (h : u.AtMost v) (h' : v.AtMost w) : u.AtMost w := by
  rcases h with h | h
  · rcases h' with h' | h'
    · exact .inl (compare?_trans h h' (by decide) (by decide))
    · exact .inl (compare?_trans h h' (by decide) (by decide))
  · rcases h' with h' | h'
    · exact .inl (compare?_trans h h' (by decide) (by decide))
    · exact .inr (compare?_trans h h' (by decide) (by decide))

/-- One strict step makes a chain strict, here the first. -/
theorem lt_of_lt_of_atMost (h : u.compare? v = some .lt) (h' : v.AtMost w) :
    u.compare? w = some .lt := by
  rcases h' with h' | h'
  · exact compare?_trans h h' (by decide) (by decide)
  · exact compare?_trans h h' (by decide) (by decide)

/-- One strict step makes a chain strict, here the last. -/
theorem lt_of_atMost_of_lt (h : u.AtMost v) (h' : v.compare? w = some .lt) :
    u.compare? w = some .lt := by
  rcases h with h | h
  · exact compare?_trans h h' (by decide) (by decide)
  · exact compare?_trans h h' (by decide) (by decide)

end Value

namespace Bound

@[simp] theorem startAdmits_included_iff {s : Value} :
    (included s).startAdmits v = some true ↔ s.AtMost v := by
  rw [startAdmits, Value.compare?_swap s v, Value.AtMost]
  rcases s.compare? v with _ | _ | _ | _ <;> simp

@[simp] theorem startAdmits_excluded_iff {s : Value} :
    (excluded s).startAdmits v = some true ↔ s.compare? v = some .lt := by
  rw [startAdmits, Value.compare?_swap s v]
  rcases s.compare? v with _ | _ | _ | _ <;> simp

@[simp] theorem stopAdmits_included_iff {s : Value} :
    (included s).stopAdmits v = some true ↔ v.AtMost s := by
  rw [stopAdmits, Value.AtMost]
  rcases v.compare? s with _ | _ | _ | _ <;> simp

@[simp] theorem stopAdmits_excluded_iff {s : Value} :
    (excluded s).stopAdmits v = some true ↔ v.compare? s = some .lt := by
  rw [stopAdmits]
  rcases v.compare? s with _ | _ | _ | _ <;> simp

/-- **Upwards the test at the start goes on holding.** -/
theorem startAdmits_of_atMost {b : Bound} (h : b.startAdmits v = some true) (hle : v.AtMost w) :
    b.startAdmits w = some true := by
  cases b with
  | included s =>
    rw [startAdmits_included_iff] at h ⊢
    exact h.trans hle
  | excluded s =>
    rw [startAdmits_excluded_iff] at h ⊢
    exact Value.lt_of_lt_of_atMost h hle
  | unbounded => rfl

/-- **Downwards the test at the end goes on holding.** -/
theorem stopAdmits_of_atMost {b : Bound} (h : b.stopAdmits w = some true) (hle : v.AtMost w) :
    b.stopAdmits v = some true := by
  cases b with
  | included s =>
    rw [stopAdmits_included_iff] at h ⊢
    exact hle.trans h
  | excluded s =>
    rw [stopAdmits_excluded_iff] at h ⊢
    exact Value.lt_of_atMost_of_lt hle h
  | unbounded => rfl

end Bound

namespace Range

/-- A value lies in a range exactly if both ends admit it. -/
theorem covers?_eq_some_true_iff {r : Range} : r.covers? v = some true ↔
    r.start.startAdmits v = some true ∧ r.stop.stopAdmits v = some true := by
  rw [covers?]
  rcases r.start.startAdmits v with _ | p <;> rcases r.stop.stopAdmits v with _ | q <;> simp

/-- **What lies between two values of a range lies in it.** -/
theorem covers?_of_between {r : Range} (hu : r.covers? u = some true) (hw : r.covers? w = some true)
    (huv : u.AtMost v) (hvw : v.AtMost w) : r.covers? v = some true := by
  obtain ⟨hstart, -⟩ := covers?_eq_some_true_iff.mp hu
  obtain ⟨-, hstop⟩ := covers?_eq_some_true_iff.mp hw
  exact covers?_eq_some_true_iff.mpr
    ⟨Bound.startAdmits_of_atMost hstart huv, Bound.stopAdmits_of_atMost hstop hvw⟩

/-- **Ranges are pairs of tests, and convex.** On a value other than null a range is unknown if one
of its two tests is, holds if both hold, and fails otherwise. The constructors put the bounds where
their names say. What lies between two values of a range lies in it, whatever the kinds of numbers
among them. -/
theorem evaluate_within_convex (r : Range) :
    (∀ v, v ≠ .null → (Condition.within r).evaluate v =
      if r.start.startTest v = .unknown ∨ r.stop.stopTest v = .unknown then .unknown
      else if r.start.startTest v = .holds ∧ r.stop.stopTest v = .holds then .holds else .fails) ∧
    (∀ a b, inclusive a b = ⟨.included a, .included b⟩ ∧
      exclusive a b = ⟨.included a, .excluded b⟩ ∧ atLeast a = ⟨.included a, .unbounded⟩ ∧
      atMost b = ⟨.unbounded, .included b⟩ ∧ below b = ⟨.unbounded, .excluded b⟩) ∧
    ∀ u v w, r.covers? u = some true → r.covers? w = some true →
      (u.compare? v = some .lt ∨ u.compare? v = some .eq) →
      (v.compare? w = some .lt ∨ v.compare? w = some .eq) → r.covers? v = some true := by
  refine ⟨fun v hv => Condition.evaluate_within r hv, fun a b => ⟨rfl, rfl, rfl, rfl, rfl⟩, ?_⟩
  intro u v w hu hw huv hvw
  exact covers?_of_between hu hw huv hvw

/-- From the integer 1 up to the double 3, which is excluded: a text has no order with the bounds,
and an integer between two doubles of the range is in it. -/
theorem evaluate_within_convex_numbers :
    let r := exclusive (.int 1) (.float ⟨0x4008000000000000⟩)
    (.str "a" ≠ Value.null ∧ (Condition.within r).evaluate (.str "a") = .unknown) ∧
    r.covers? (.float ⟨0x3ff8000000000000⟩) = some true ∧
    r.covers? (.float ⟨0x4004000000000000⟩) = some true ∧ r.covers? (.int 2) = some true := by
  intro r
  obtain ⟨htests, -, hconvex⟩ := evaluate_within_convex r
  have hne : .str "a" ≠ Value.null := by decide
  have hlow : r.covers? (.float ⟨0x3ff8000000000000⟩) = some true := by decide +kernel
  have hhigh : r.covers? (.float ⟨0x4004000000000000⟩) = some true := by decide +kernel
  exact ⟨⟨hne, (htests _ hne).trans (if_pos (.inl (by decide)))⟩, hlow, hhigh,
    hconvex _ _ _ hlow hhigh (.inl (by decide +kernel)) (.inl (by decide +kernel))⟩

end Range

end RecordFilter
