import Mathlib.Data.Finset.Card
import RecordFilter.Filter

/-!
# Proofs/Condition/Insertion — what a history of insertions leaves

A set of conditions is built by insertions, one after the other. What it holds in the end can be
told from that **history** alone: the names in the order in which each came in first, and with each
name the condition that came in last. A map *follows* a history if its order and its contents are
these. Every insertion keeps a map in step with its history (`Follows.insert`), so what is collected
from a history follows it (`follows_ofList`); evaluating and compiling then go through the entries
that the history leaves (`ofList_eq_settled`).
-/

namespace RecordFilter

namespace FieldMap

variable {α : Type} {history : List (String × α)} {m : FieldMap α}

/-! ## Histories -/

/-- The names of a history, each where it comes in first. -/
def firstNames (history : List (String × α)) : List String := (history.map Prod.fst).eraseDups

/-- The content that comes in last under a name. -/
def last? (history : List (String × α)) (name : String) : Option α := history.reverse.lookup name

/-- The entries that a history leaves. -/
def settled (history : List (String × α)) : List (String × α) :=
  (firstNames history).filterMap fun name => (last? history name).map (name, ·)

@[simp] theorem mem_firstNames_iff {name : String} :
    name ∈ firstNames history ↔ name ∈ history.map Prod.fst := List.mem_eraseDups

theorem firstNames_append_singleton (history : List (String × α)) (name : String) (a : α) :
    firstNames (history ++ [(name, a)]) =
      if name ∈ firstNames history then firstNames history
      else firstNames history ++ [name] := by
  rw [firstNames, List.map_append, List.eraseDups_append]
  simp only [mem_firstNames_iff]
  by_cases h : name ∈ history.map Prod.fst
  · rw [if_pos h]
    simp [List.removeAll, h, firstNames]
  · rw [if_neg h]
    simp [List.removeAll, h, firstNames, List.eraseDups_cons]

@[simp] theorem last?_append_singleton (history : List (String × α)) (name other : String) (a : α) :
    last? (history ++ [(name, a)]) other =
      if other = name then some a else last? history other := by
  rw [last?, List.reverse_append, List.reverse_singleton, List.singleton_append, List.lookup_cons]
  by_cases h : other = name
  · rw [if_pos h, beq_iff_eq.mpr h]
  · rw [if_neg h, beq_eq_false_iff_ne.mpr h, last?]

/-! ## Following a history -/

/-- The names stand in the order of the history, and each has the content it was given last. -/
structure Follows (m : FieldMap α) (history : List (String × α)) : Prop where
  names_eq : m.names = firstNames history
  get?_eq : ∀ name, m.get? name = last? history name

theorem names_insert (m : FieldMap α) (name : String) (a : α) :
    (m.insert name a).names = if name ∈ m.names then m.names else m.names ++ [name] :=
  map_fst_put name a m.entries

/-- **An insertion keeps up with its history.** -/
theorem Follows.insert (h : m.Follows history) (name : String) (a : α) :
    (m.insert name a).Follows (history ++ [(name, a)]) where
  names_eq := by rw [names_insert, firstNames_append_singleton, h.names_eq]
  get?_eq other := by simp [h.get?_eq]

/-- Insertions that come later are the end of the history. -/
@[simp] theorem foldl_insert_ofList (history later : List (String × α)) :
    later.foldl (fun m e => m.insert e.1 e.2) (ofList history) = ofList (history ++ later) :=
  List.foldl_append.symm

/-- **What is collected from a history follows it.** -/
theorem follows_ofList (history : List (String × α)) : (ofList history).Follows history := by
  induction history using List.reverseRecOn with
  | nil => exact ⟨rfl, fun _ => rfl⟩
  | append_singleton history e ih =>
    rw [← foldl_insert_ofList]
    exact ih.insert e.1 e.2

/-! ## Entries -/

/-- Where each name occurs once, looking up all names gives the entries back. -/
theorem filterMap_find {l : List (String × α)} (h : (l.map Prod.fst).Nodup) :
    ((l.map Prod.fst).filterMap fun name => (find name l).map (name, ·)) = l := by
  induction l with
  | nil => rfl
  | cons e l ih =>
    obtain ⟨name, a⟩ := e
    rw [List.map_cons, List.nodup_cons] at h
    have hrest : ∀ other ∈ l.map Prod.fst,
        (find other ((name, a) :: l)).map (other, ·) = (find other l).map (other, ·) := by
      intro other hmem
      have hne : name ≠ other := fun heq => h.1 (heq ▸ hmem)
      rw [find, if_neg hne]
    rw [List.map_cons, List.filterMap_cons, find, if_pos rfl, Option.map_some]
    simp only
    rw [List.filterMap_congr hrest, ih h.2]

/-- **The entries are those that the history leaves.** -/
theorem Follows.entries_eq (h : m.Follows history) : m.entries = settled history := by
  rw [settled, ← h.names_eq]
  simp only [← h.get?_eq]
  exact (filterMap_find m.nodup).symm

example : (ofList [("b", 1), ("a", 2), ("b", 3)]).entries = [("b", 3), ("a", 2)] := by decide

/-- There are as many entries as different names in the history. -/
theorem Follows.size_eq (h : m.Follows history) :
    m.size = (history.map Prod.fst).toFinset.card := by
  have hnames : m.names.toFinset = (history.map Prod.fst).toFinset := by
    ext name
    simp [h.names_eq]
  have hnodup : m.names.Nodup := m.nodup
  rw [← hnames, List.toFinset_card_of_nodup hnodup, names, List.length_map, size]

/-! ## One insertion -/

theorem put_of_not_mem {name : String} {l : List (String × α)} (h : name ∉ l.map Prod.fst) (a : α) :
    put name a l = l ++ [(name, a)] := by
  induction l with
  | nil => rfl
  | cons e l ih =>
    rw [List.map_cons] at h
    obtain ⟨hne, hl⟩ := List.ne_and_not_mem_of_not_mem_cons h
    rw [put, if_neg hne.symm, ih hl, List.cons_append]

theorem put_of_mem {name : String} {l : List (String × α)} (hl : (l.map Prod.fst).Nodup)
    (h : name ∈ l.map Prod.fst) (a : α) :
    put name a l = l.map fun e => if e.1 = name then (name, a) else e := by
  induction l with
  | nil => cases h
  | cons e l ih =>
    rw [List.map_cons, List.nodup_cons] at hl
    rw [List.map_cons]
    by_cases hname : e.1 = name
    · -- the name occurs nowhere else, so nothing behind is replaced
      have hrest : ∀ d ∈ l, (if d.1 = name then (name, a) else d) = d := by
        intro d hd
        refine if_neg fun heq => hl.1 ?_
        rw [hname, ← heq]
        exact List.mem_map_of_mem hd
      rw [put, if_pos hname, if_pos hname, hname, List.map_congr_left hrest, List.map_id']
    · have hmem : name ∈ l.map Prod.fst := by
        refine (List.mem_cons.mp h).resolve_left fun heq => hname heq.symm
      rw [put, if_neg hname, if_neg hname, ih hl.2 hmem]

/-- **An insertion replaces one content in its place, or appends one entry.** -/
theorem entries_insert (m : FieldMap α) (name : String) (a : α) :
    (m.insert name a).entries =
      if name ∈ m.names then m.entries.map fun e => if e.1 = name then (name, a) else e
      else m.entries ++ [(name, a)] := by
  split
  · next h => exact put_of_mem m.nodup h a
  · next h => exact put_of_not_mem h a

end FieldMap

namespace Conditions

open FieldMap (firstNames last? settled)

/-- **A set of conditions is what its history leaves.** Its names are all different and stand in the
order in which they came in first, each with the condition that came in last; records are evaluated
and fragments compiled in that order. It makes no difference whether conditions are collected or
inserted later, and an insertion under a name that is there changes no other entry and no
position. -/
theorem ofList_eq_settled (history : List (String × Condition)) :
    let cs : Conditions := .ofList history
    cs.names.Nodup ∧ cs.names = firstNames history ∧
    (∀ name, cs.get? name = last? history name) ∧
    cs.size = (history.map Prod.fst).toFinset.card ∧
    cs.entries = settled history ∧
    (∀ {ρ : Type} [Record ρ] (record : ρ), cs.evaluate record =
      (settled history).map fun e => e.2.evaluate (Record.valueOf record e.1)) ∧
    (∀ s, cs.compile s = (settled history).mapM fun e => e.2.compile s { name := e.1 }) ∧
    (∀ later : List (String × Condition),
      later.foldl (fun cs e => cs.insert e.1 e.2) cs = .ofList (history ++ later)) ∧
    ∀ name c, (cs.insert name c).entries =
      if name ∈ cs.names then cs.entries.map fun e => if e.1 = name then (name, c) else e
      else cs.entries ++ [(name, c)] := by
  intro cs
  have hfollows := FieldMap.follows_ofList history
  have hentries : cs.entries = settled history := hfollows.entries_eq
  refine ⟨cs.nodup, hfollows.names_eq, hfollows.get?_eq, hfollows.size_eq, hentries,
    fun record => ?_, fun s => ?_, FieldMap.foldl_insert_ofList history, cs.entries_insert⟩
  · rw [← hentries]
    rfl
  · rw [← hentries]
    rfl

end Conditions

end RecordFilter
