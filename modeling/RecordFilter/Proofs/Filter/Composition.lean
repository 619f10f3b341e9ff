import Mathlib.Data.List.FinRange
import Mathlib.Data.List.Nodup
import RecordFilter.Proofs.Condition.Insertion
import RecordFilter.Proofs.Filter.Conjunction

/-!
# Proofs/Filter/Composition — filtering again, and filtering by more conditions

A plain filter is satisfied entry by entry and a negated one by any entry, so what a filter keeps
depends on the entries of its conditions and not on their order (`keeps_congr`). The entries of two
sets **merged** are those of the second and those of the first under other names
(`mem_entries_merge_iff`). Hence filtering by a merged set is filtering by the one and then by the
other; what was kept may be handed on by reference.
-/

namespace RecordFilter

namespace FieldMap

variable {α : Type} {m : FieldMap α} {l : List (String × α)}

/-! ## Entries -/

theorem eq_of_entries_eq {m n : FieldMap α} (h : m.entries = n.entries) : m = n := by
  cases m
  cases n
  cases h
  rfl

theorem mem_names_of_mem {e : String × α} (h : e ∈ m.entries) : e.1 ∈ m.names :=
  List.mem_map_of_mem h

/-- An insertion leaves its own entry and those under other names. -/
@[simp] theorem mem_entries_insert_iff {name : String} {a : α} {e : String × α} :
    e ∈ (m.insert name a).entries ↔ e = (name, a) ∨ e ∈ m.entries ∧ e.1 ≠ name := by
  rw [entries_insert]
  split
  · next h =>
    rw [List.mem_map]
    constructor
    · rintro ⟨d, hd, rfl⟩
      by_cases hname : d.1 = name
      · exact .inl (if_pos hname)
      · rw [if_neg hname]
        exact .inr ⟨hd, hname⟩
    · rintro (rfl | ⟨he, hname⟩)
      · obtain ⟨d, hd, hname⟩ := List.mem_map.mp h
        exact ⟨d, hd, if_pos hname⟩
      · exact ⟨e, he, if_neg hname⟩
  · next h =>
    rw [List.mem_append, List.mem_singleton, or_comm]
    refine or_congr_right ?_
    exact ⟨fun he => ⟨he, fun heq => h (heq ▸ mem_names_of_mem he)⟩, And.left⟩

theorem mem_entries_foldl_insert_iff (hl : (l.map Prod.fst).Nodup) {e : String × α} :
    e ∈ (l.foldl (fun m d => m.insert d.1 d.2) m).entries ↔
      e ∈ l ∨ e ∈ m.entries ∧ e.1 ∉ l.map Prod.fst := by
  induction l generalizing m with
  | nil => simp
  | cons d l ih =>
    rw [List.map_cons, List.nodup_cons] at hl
    rw [List.foldl_cons, ih hl.2, mem_entries_insert_iff, List.map_cons, List.mem_cons,
      List.mem_cons, not_or, or_and_right, and_assoc]
    have hd : e = d ∧ e.1 ∉ l.map Prod.fst ↔ e = d :=
      ⟨And.left, fun heq => ⟨heq, heq ▸ hl.1⟩⟩
    rw [show (d.1, d.2) = d from rfl, hd, or_left_comm, ← or_assoc]

/-- Entries under different names are collected as they stand. -/
theorem entries_ofList (hl : (l.map Prod.fst).Nodup) : (ofList l).entries = l := by
  induction l using List.reverseRecOn with
  | nil => rfl
  | append_singleton l e ih =>
    rw [List.map_append, List.nodup_append] at hl
    have hentries := ih hl.1
    have hnew : e.1 ∉ (ofList l).names := by
      rw [names, hentries]
      exact fun he => hl.2.2 _ he _ (List.mem_singleton_self _) rfl
    rw [← foldl_insert_ofList, List.foldl_cons, List.foldl_nil, entries_insert, if_neg hnew,
      hentries]

end FieldMap

/-! ## References -/

namespace Reference

variable {ρ : Type} {records : List ρ}

@[simp] theorem map_target_all (records : List ρ) : (all records).map target = records := by
  rw [all, List.map_map]
  exact List.map_get_finRange records

/-- The references stand in the order of their positions. -/
theorem pairwise_all (records : List ρ) :
    (all records).Pairwise fun r s => r.position < s.position :=
  (List.pairwise_lt_finRange _).map _ fun _ _ h => h

end Reference

namespace Conditions

/-! ## Merging -/

/-- The conditions of the second set inserted into the first, one after the other. -/
def merge (cs ds : Conditions) : Conditions := ds.entries.foldl (fun cs e => cs.insert e.1 e.2) cs

/-- The conditions under other names than these. -/
def without (cs : Conditions) (names : List String) : Conditions where
  entries := cs.entries.filter fun e => e.1 ∉ names
  nodup := cs.nodup.sublist (List.filter_sublist.map _)

variable {cs ds : Conditions}

/-- **Merging keeps the second set, and the first one under other names.** -/
theorem mem_entries_merge_iff {e : String × Condition} :
    e ∈ (cs.merge ds).entries ↔ e ∈ ds.entries ∨ e ∈ (cs.without ds.names).entries := by
  have hwithout : e ∈ (cs.without ds.names).entries ↔ e ∈ cs.entries ∧ e.1 ∉ ds.names := by
    rw [without, List.mem_filter, decide_eq_true_iff]
  rw [hwithout]
  exact FieldMap.mem_entries_foldl_insert_iff ds.nodup

theorem without_of_disjoint (h : cs.names.Disjoint ds.names) : cs.without ds.names = cs := by
  refine FieldMap.eq_of_entries_eq (List.filter_eq_self.mpr fun _ he => decide_eq_true fun hn => ?_)
  exact h (FieldMap.mem_names_of_mem he) hn

/-! ## What is kept -/

variable {ρ : Type} [Record ρ]

/-- A plain filter keeps what satisfies all conditions. -/
theorem keeps_false_iff {record : ρ} : cs.keeps false record = true ↔
    ∀ e ∈ cs.entries, (e.2.evaluate (Record.valueOf record e.1)).satisfied false = true := by
  have h : cs.keeps false record = (cs.evaluate record).all (·.satisfied false) := rfl
  rw [h, evaluate, List.all_map, List.all_eq_true]
  rfl

/-- A negated filter keeps what fails one of them. -/
theorem keeps_true_iff {record : ρ} : cs.keeps true record = true ↔
    ∃ e ∈ cs.entries, (e.2.evaluate (Record.valueOf record e.1)).satisfied true = true := by
  have h : cs.keeps true record = (cs.evaluate record).any (·.satisfied true) := rfl
  rw [h, evaluate, List.any_map, List.any_eq_true]
  rfl

/-- **Only the entries count, not their order.** -/
theorem keeps_congr (h : ∀ e, e ∈ cs.entries ↔ e ∈ ds.entries) (negate : Bool) (record : ρ) :
    cs.keeps negate record = ds.keeps negate record := by
  rw [Bool.eq_iff_iff]
  cases negate with
  | false =>
    rw [keeps_false_iff, keeps_false_iff]
    simp only [h]
  | true =>
    rw [keeps_true_iff, keeps_true_iff]
    simp only [h]

/-- A merged set is satisfied where its two parts are. -/
theorem merge_keeps_false (cs ds : Conditions) (record : ρ) : (cs.merge ds).keeps false record =
    (ds.keeps false record && (cs.without ds.names).keeps false record) := by
  rw [Bool.eq_iff_iff, Bool.and_eq_true, keeps_false_iff, keeps_false_iff, keeps_false_iff]
  simp only [mem_entries_merge_iff, or_imp, forall_and]

/-- The negation of a merged set is satisfied where that of one of its two parts is. -/
theorem merge_keeps_true (cs ds : Conditions) (record : ρ) : (cs.merge ds).keeps true record =
    (ds.keeps true record || (cs.without ds.names).keeps true record) := by
  rw [Bool.eq_iff_iff, Bool.or_eq_true, keeps_true_iff, keeps_true_iff, keeps_true_iff]
  simp only [mem_entries_merge_iff, or_and_right, exists_or]

theorem merge_keeps_true_of_disjoint (h : cs.names.Disjoint ds.names) (record : ρ) :
    (cs.merge ds).keeps true record = (cs.keeps true record || ds.keeps true record) := by
  rw [merge_keeps_true, without_of_disjoint h, Bool.or_comm]

/-- Filtering twice keeps what both sets keep. -/
theorem matching_matching_run (cs ds : Conditions) (records : List ρ) (log : List Event) :
    ((cs.matching records >>= ds.matching).run log).1 =
      records.filter fun record => ds.keeps false record && cs.keeps false record :=
  List.filter_filter ..

/-- **Filtering by a merged set** is filtering by the second one, and then by what it leaves of the
first. -/
theorem merge_matching_run (cs ds : Conditions) (records : List ρ) (log : List Event) :
    (((cs.merge ds).matching records).run log).1 =
      ((ds.matching records >>= (cs.without ds.names).matching).run log).1 := by
  rw [matching_matching_run]
  refine List.filter_congr fun record _ => ?_
  rw [merge_keeps_false, Bool.and_comm]

/-- **The entries may be collected in any order.** -/
theorem filterRecords_ofList_of_perm {l : List (String × Condition)} (h : l.Perm cs.entries)
    (records : List ρ) (negate : Bool) :
    filterRecords records (.ofList l) negate = filterRecords records cs negate := by
  have hentries := FieldMap.entries_ofList ((h.map Prod.fst).nodup_iff.mpr cs.nodup)
  have hkeeps : ∀ record : ρ, Conditions.keeps (.ofList l) negate record =
      cs.keeps negate record := by
    refine keeps_congr (fun e => ?_) negate
    rw [hentries, h.mem_iff]
  have hsize : FieldMap.size (.ofList l) = cs.size := by
    rw [FieldMap.size, hentries, h.length_eq, FieldMap.size]
  rw [filterRecords, funext hkeeps, hsize, filterRecords]

/-- **What is kept by reference is what is kept.** -/
theorem filterRecords_map_target {records : List ρ} (references : List (Reference records))
    (cs : Conditions) (negate : Bool) (log : List Event) :
    let kept := (filterRecords references cs negate).run log
    (filterRecords (references.map Reference.target) cs negate).run log =
      (kept.1.map Reference.target, kept.2) := by
  have hkept : (references.map Reference.target).filter (cs.keeps negate) =
      (references.filter (cs.keeps negate)).map Reference.target := List.filter_map
  intro kept
  rw [filterRecords_run, hkept, List.length_map, List.length_map]
  rfl

/-- **Filtering composes.** Keeping what satisfies one set of conditions, and of that what satisfies
another one under other names, is keeping what satisfies the merged set; what is kept may be
handed on as records or as references to them. Negated, the merged set keeps each row that one of
the two keeps, in order and once. Where the sets share names, the conditions of the second one
count. The order of a set makes no difference. -/
theorem filter_merge (cs ds : Conditions) (records : List ρ) (log : List Event) :
    (cs.names.Disjoint ds.names →
      ((cs.matching records >>= ds.matching).run log).1 =
        (((cs.merge ds).matching records).run log).1 ∧
      (((cs.merge ds).notMatching records).run log).1 =
        (records.filter fun record => cs.keeps true record || ds.keeps true record) ∧
      let rows := Reference.all records
      let kept := (((cs.merge ds).notMatching rows).run log).1
      (kept.Pairwise fun r s => r.position < s.position) ∧
        ∀ row, row ∈ kept ↔
          row ∈ ((cs.notMatching rows).run log).1 ∨ row ∈ ((ds.notMatching rows).run log).1) ∧
    (∀ l : List (String × Condition), l.Perm cs.entries → ∀ negate,
      filterRecords records (.ofList l) negate = filterRecords records cs negate) ∧
    (((cs.merge ds).matching records).run log).1 =
      ((ds.matching records >>= (cs.without ds.names).matching).run log).1 ∧
    ((Reference.all records).map Reference.target = records ∧
      ∀ (references : List (Reference records)) negate,
        let kept := (filterRecords references cs negate).run log
        (filterRecords (references.map Reference.target) cs negate).run log =
          (kept.1.map Reference.target, kept.2)) := by
  refine ⟨fun hdisjoint => ⟨?_, ?_, ?_⟩, fun l hperm => filterRecords_ofList_of_perm hperm records,
    merge_matching_run cs ds records log, Reference.map_target_all records,
    fun references negate => filterRecords_map_target references cs negate log⟩
  · rw [merge_matching_run, without_of_disjoint hdisjoint, matching_matching_run,
      matching_matching_run]
    exact List.filter_congr fun record _ => Bool.and_comm ..
  · exact List.filter_congr fun record _ => merge_keeps_true_of_disjoint hdisjoint record
  · refine ⟨(Reference.pairwise_all records).filter _, fun row => ?_⟩
    have hkept : ∀ bs : Conditions, row ∈ ((bs.notMatching (Reference.all records)).run log).1 ↔
        row ∈ Reference.all records ∧ bs.keeps true row = true := fun _ => List.mem_filter
    rw [hkept, hkept, hkept, merge_keeps_true_of_disjoint hdisjoint, Bool.or_eq_true, and_or_left]

/-- Rows with two numbers: the references to those that satisfy a condition on the first number,
filtered by one on the second, and the rows that fail one of the two, in either order of these. -/
theorem filter_merge_rows :
    let cs : Conditions := FieldMap.ofList [("a", .operator (.gt (.int 1)))]
    let ds : Conditions := FieldMap.ofList [("b", .operator (.lt (.int 5)))]
    let row (a b : Value) : Row := FieldMap.ofList [("a", a), ("b", b)]
    let rows := [row (.int 2) (.int 3), row (.int 0) (.int 3), row (.int 2) .null]
    let references := Reference.all rows
    ((cs.matching references >>= ds.matching).run []).1 = [⟨0⟩] ∧
      (((cs.merge ds).notMatching references).run []).1 = [⟨1⟩] ∧
      filterRecords rows (.ofList (cs.merge ds).entries.reverse) true =
        filterRecords rows (cs.merge ds) true := by
  intro cs ds row rows references
  obtain ⟨hdisjoint, -⟩ := filter_merge cs ds references []
  obtain ⟨-, hperm, -⟩ := filter_merge (cs.merge ds) ds rows []
  have hnames : cs.names.Disjoint ds.names := List.disjoint_singleton.mpr (by decide)
  obtain ⟨hmatching, hnegated, -⟩ := hdisjoint hnames
  exact ⟨hmatching.trans (by decide +kernel), hnegated.trans (by decide +kernel),
    hperm _ (List.reverse_perm _) true⟩

end Conditions

end RecordFilter
