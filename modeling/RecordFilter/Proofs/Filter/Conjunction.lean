import Mathlib.Data.List.Forall2
import RecordFilter.Filter

/-!
# Proofs/Filter/Conjunction — filters and the conjunction of their conditions

The **verdict** on a record is the conjunction, in three-valued logic, of what the conditions say of
it. Records are tested condition by condition and never against the verdict; all the same a plain
filter keeps the records whose verdict holds and a negated one those whose verdict fails
(`keeps_iff`), so that neither keeps a record with an unknown verdict.

Conditions read a missing field as null. So a record that is *filled in* with nulls where it lacks a
field has the same outcomes (`evaluate_of_fillsIn`).
-/

namespace RecordFilter

/-! ## Conjunction in three-valued logic -/

namespace Truth

variable {a b t : Truth} {ts : List Truth}

/-- An outcome counts if it is the answer that the filter asks for. -/
theorem satisfied_iff {negate : Bool} : t.satisfied negate = true ↔ t = ofBool !negate := by
  cases t <;> cases negate <;> decide

/-- A conjunction holds if both sides do. -/
@[simp] theorem and_eq_holds_iff : a.and b = holds ↔ a = holds ∧ b = holds := by
  cases a <;> cases b <;> decide

@[simp] theorem and_eq_fails_iff : a.and b = fails ↔ a = fails ∨ b = fails := by
  cases a <;> cases b <;> decide

@[simp] theorem all_cons : all (t :: ts) = t.and (all ts) := rfl

/-- **A conjunction holds if all its parts do**; an unknown one is enough to prevent it. -/
@[simp] theorem all_eq_holds_iff : all ts = holds ↔ ∀ t ∈ ts, t = holds := by
  induction ts with
  | nil => simp [all]
  | cons t ts ih => simp [ih]

/-- **One failure fails a conjunction**, whatever is unknown beside it. -/
@[simp] theorem all_eq_fails_iff : all ts = fails ↔ fails ∈ ts := by
  induction ts with
  | nil => simp [all]
  | cons t ts ih => simp [ih, eq_comm (a := fails)]

/-- What neither holds nor fails is unknown. -/
theorem ne_holds_and_ne_fails_iff : (t ≠ holds ∧ t ≠ fails) ↔ t = unknown := by
  cases t <;> decide

end Truth

/-! ## Filling in nulls -/

variable {ρ σ : Type} [Record ρ] [Record σ]

namespace Record

/-- The second record has the fields of the first, and perhaps others that hold null. -/
def FillsIn (record : ρ) (filled : σ) : Prop :=
  ∀ name, field? filled name = field? record name ∨
    (field? record name = none ∧ field? filled name = some .null)

variable {record : ρ} {filled : σ}

/-- A field filled in reads as it did while it was missing. -/
theorem valueOf_of_fillsIn (h : FillsIn record filled) (name : String) :
    valueOf filled name = valueOf record name := by
  rcases h name with heq | ⟨hnone, hnull⟩
  · rw [valueOf, heq, valueOf]
  · rw [valueOf, valueOf, hnone, hnull]
    rfl

end Record

/-- A row in which one missing field is set to null. -/
theorem Row.fillsIn_insert {row : Row} {name : String} (h : row.get? name = none) :
    Record.FillsIn row (row.insert name .null) := by
  intro other
  rcases eq_or_ne other name with rfl | hne
  · exact .inr ⟨h, by simp⟩
  · exact .inl (by simp [hne])

/-! ## Filters -/

namespace Conditions

/-- What the conditions together say of a record. -/
def verdict (cs : Conditions) (record : ρ) : Truth := .all (cs.evaluate record)

variable (cs : Conditions)

/-- **A filter keeps a record exactly if the conjunction of its conditions is the answer that the
filter asks for.** -/
theorem keeps_iff (negate : Bool) (record : ρ) :
    cs.keeps negate record = true ↔ cs.verdict record = .ofBool !negate := by
  cases negate with
  | false =>
    have hall : cs.keeps false record = (cs.evaluate record).all (·.satisfied false) := rfl
    rw [hall, List.all_eq_true]
    simp only [Truth.satisfied_iff]
    exact Truth.all_eq_holds_iff.symm
  | true =>
    have hany : cs.keeps true record = (cs.evaluate record).any (·.satisfied true) := rfl
    rw [hany, List.any_eq_true]
    simp only [Truth.satisfied_iff]
    exact exists_eq_right.trans Truth.all_eq_fails_iff.symm

/-- The same as an equation, in which form filters of lists use it. -/
theorem keeps_eq_decide (negate : Bool) (record : ρ) :
    cs.keeps negate record = decide (cs.verdict record = .ofBool !negate) := by
  rw [Bool.eq_iff_iff, keeps_iff, decide_eq_true_iff]

/-- **Filling in nulls changes no outcome.** -/
theorem evaluate_of_fillsIn {record : ρ} {filled : σ} (h : Record.FillsIn record filled) :
    cs.evaluate filled = cs.evaluate record := by
  refine List.map_congr_left fun (name, condition) _ => ?_
  exact congrArg condition.evaluate (Record.valueOf_of_fillsIn h name)

theorem keeps_of_fillsIn {record : ρ} {filled : σ} (h : Record.FillsIn record filled)
    (negate : Bool) : cs.keeps negate filled = cs.keeps negate record := by
  rw [keeps, keeps, cs.evaluate_of_fillsIn h]

theorem filterRecords_run (records : List ρ) (negate : Bool) (log : List Event) :
    (filterRecords records cs negate).run log =
      (records.filter (cs.keeps negate), log ++ [.filteredRecords records.length cs.size negate
        (records.filter (cs.keeps negate)).length]) := rfl

/-- Records and the same records filled in are kept in pairs. -/
theorem forall₂_filter_keeps {records : List ρ} {filled : List σ}
    (h : List.Forall₂ Record.FillsIn records filled) (negate : Bool) :
    List.Forall₂ Record.FillsIn (records.filter (cs.keeps negate))
      (filled.filter (cs.keeps negate)) := by
  induction h with
  | nil => exact .nil
  | @cons record record' records filled hfills _ ih =>
    have hkeeps := cs.keeps_of_fillsIn hfills negate
    by_cases hkept : cs.keeps negate record = true
    · rw [List.filter_cons_of_pos hkept, List.filter_cons_of_pos (hkeeps.trans hkept)]
      exact .cons hfills ih
    · rw [List.filter_cons_of_neg hkept, List.filter_cons_of_neg (hkeeps ▸ hkept)]
      exact ih

/-- **A plain filter keeps the records whose verdict holds, a negated one those whose verdict
fails**, each in the order and as often as given; a record with an unknown verdict is in neither.
Filling in nulls for missing fields changes neither outcomes nor reports. -/
theorem filter_eq_verdict :
    (∀ record : ρ,
      (cs.keeps false record = true ↔ cs.verdict record = .holds) ∧
      (cs.keeps true record = true ↔ cs.verdict record = .fails) ∧
      ¬ (cs.keeps false record = true ∧ cs.keeps true record = true) ∧
      (cs.keeps false record = false ∧ cs.keeps true record = false ↔
        cs.verdict record = .unknown)) ∧
    (∀ (records : List ρ) (log : List Event),
      (∀ negate, ((filterRecords records cs negate).run log).1 =
        records.filter fun record => cs.verdict record = .ofBool !negate) ∧
      ((cs.matching records).run log).1 =
        records.filter (fun record => cs.verdict record = .holds) ∧
      ((cs.notMatching records).run log).1 =
        records.filter fun record => cs.verdict record = .fails) ∧
    ∀ (records : List ρ) (filled : List σ), List.Forall₂ Record.FillsIn records filled →
      filled.map cs.evaluate = records.map cs.evaluate ∧ ∀ negate log,
        List.Forall₂ Record.FillsIn ((filterRecords records cs negate).run log).1
          ((filterRecords filled cs negate).run log).1 ∧
        ((filterRecords filled cs negate).run log).2 =
          ((filterRecords records cs negate).run log).2 := by
  have hfilter : ∀ (records : List ρ) negate, records.filter (cs.keeps negate) =
      records.filter fun record => cs.verdict record = .ofBool !negate := fun records negate =>
    List.filter_congr fun record _ => cs.keeps_eq_decide negate record
  refine ⟨fun record => ?_, fun records log => ?_, fun records filled h =>
    ⟨?_, fun negate log => ?_⟩⟩
  · have hplain : cs.keeps false record = true ↔ cs.verdict record = .holds :=
      cs.keeps_iff false record
    have hnegated : cs.keeps true record = true ↔ cs.verdict record = .fails :=
      cs.keeps_iff true record
    refine ⟨hplain, hnegated, fun ⟨hp, hn⟩ => ?_, ?_⟩
    · cases (hplain.mp hp).symm.trans (hnegated.mp hn)
    · rw [← Bool.not_eq_true, ← Bool.not_eq_true, hplain, hnegated]
      exact Truth.ne_holds_and_ne_fails_iff
  · exact ⟨hfilter records, hfilter records false, hfilter records true⟩
  · induction h with
    | nil => rfl
    | cons hfills _ ih => rw [List.map_cons, List.map_cons, ih, cs.evaluate_of_fillsIn hfills]
  · have hkept := cs.forall₂_filter_keeps h negate
    refine ⟨hkept, ?_⟩
    rw [filterRecords_run, filterRecords_run, hkept.length_eq, h.length_eq]

/-- A name that starts with "a" and a size above one: both hold of the first row, the second one
fails on the second row, and the third row has no size. -/
theorem filter_eq_verdict_rows : ∃ p, LikePattern.compile "a%" false = .ok p ∧
    let cs : Conditions := FieldMap.ofList
      [("name", .operator (.like p)), ("size", .operator (.gt (.int 1)))]
    let row (l : List (String × Value)) : Row := FieldMap.ofList l
    let rows := [row [("name", .str "ab"), ("size", .int 2)],
      row [("name", .str "ac"), ("size", .int 0)], row [("name", .str "ad")]]
    let filled := [row [("name", .str "ab"), ("size", .int 2)],
      row [("name", .str "ac"), ("size", .int 0)], row [("name", .str "ad"), ("size", .null)]]
    rows.map cs.verdict = [.holds, .fails, .unknown] ∧
      List.Forall₂ Record.FillsIn rows filled ∧
      filled.map cs.evaluate = rows.map cs.evaluate := by
  refine ⟨_, rfl, ?_⟩
  intro cs row rows filled
  have hfills : List.Forall₂ Record.FillsIn rows filled :=
    .cons (fun _ => .inl rfl) (.cons (fun _ => .inl rfl)
      (.cons (Row.fillsIn_insert (by decide +kernel)) .nil))
  exact ⟨by decide +kernel, hfills, (cs.filter_eq_verdict.2.2 rows filled hfills).1⟩

end Conditions

end RecordFilter
