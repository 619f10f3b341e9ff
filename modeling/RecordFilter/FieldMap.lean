/-!
# FieldMap — contents by field name, in the order of first insertion

Each name occurs once. Inserting under a name that is there replaces its content in place; inserting
under a new name appends. The invariant is part of the type, and `get?_insert` says what insertion
does to the contents.
-/

namespace RecordFilter

/-- Contents by field name. -/
structure FieldMap (α : Type) where
  entries : List (String × α)
  nodup : (entries.map Prod.fst).Nodup

namespace FieldMap

variable {α : Type}

/-- Replaces the content of a name, or appends the name. -/
def put (name : String) (a : α) : List (String × α) → List (String × α)
  | [] => [(name, a)]
  | (n, b) :: rest => if n = name then (n, a) :: rest else (n, b) :: put name a rest

/-- The content of a name. -/
def find (name : String) : List (String × α) → Option α
  | [] => none
  | (n, a) :: rest => if n = name then some a else find name rest

/-- **Names keep their places**: a name that is there already stays where it is, and a new one goes
to the end. -/
theorem map_fst_put (name : String) (a : α) (l : List (String × α)) :
    (put name a l).map Prod.fst =
      if name ∈ l.map Prod.fst then l.map Prod.fst else l.map Prod.fst ++ [name] := by
  induction l with
  | nil => simp [put]
  | cons e rest ih =>
    obtain ⟨n, b⟩ := e
    by_cases h : n = name
    · simp [put, h]
    · by_cases hr : name ∈ rest.map Prod.fst
      · rw [if_pos hr] at ih
        have hm : name ∈ ((n, b) :: rest).map Prod.fst := by simpa using Or.inr hr
        rw [if_pos hm]
        simp only [put, h, if_false, List.map_cons, ih]
      · rw [if_neg hr] at ih
        have hm : name ∉ ((n, b) :: rest).map Prod.fst := by
          intro hc
          rcases List.mem_cons.1 hc with hc | hc
          · exact h hc.symm
          · exact hr hc
        rw [if_neg hm]
        simp only [put, h, if_false, List.map_cons, ih, List.cons_append]

/-- Names stay distinct, which is the invariant of a map. -/
theorem nodup_put (name : String) (a : α) {l : List (String × α)} (h : (l.map Prod.fst).Nodup) :
    ((put name a l).map Prod.fst).Nodup := by
  rw [map_fst_put]
  split
  · exact h
  · next hn =>
    refine List.nodup_append.2 ⟨h, by simp, ?_⟩
    intro x hx y hy hxy
    rw [List.mem_singleton] at hy
    exact hn (hy ▸ hxy ▸ hx)

/-- The map without fields, from which every other one is built by insertions. -/
def empty : FieldMap α := ⟨[], List.nodup_nil⟩

instance : Inhabited (FieldMap α) := ⟨empty⟩

/-- Sets the content of a field: in its place if the name is there, at the end if it is new. -/
def insert (m : FieldMap α) (name : String) (a : α) : FieldMap α :=
  ⟨put name a m.entries, nodup_put name a m.nodup⟩

/-- The entries inserted one after the other. -/
def ofList (l : List (String × α)) : FieldMap α := l.foldl (fun m e => m.insert e.1 e.2) empty

/-- The content of a field, if there is one of that name. -/
def get? (m : FieldMap α) (name : String) : Option α := find name m.entries

/-- The names of the fields, in the order of their first insertion. -/
def names (m : FieldMap α) : List String := m.entries.map Prod.fst

def size (m : FieldMap α) : Nat := m.entries.length

def isEmpty (m : FieldMap α) : Bool := m.entries.isEmpty

/-- Same names in the same order, with contents that agree. -/
def sameInOrder (same : α → α → Bool) (m n : FieldMap α) : Bool :=
  m.size = n.size && (m.entries.zip n.entries).all fun (a, b) => a.1 = b.1 && same a.2 b.2

/-- Same names in any order, with contents that agree. -/
def sameContents (same : α → α → Bool) (m n : FieldMap α) : Bool :=
  m.size = n.size && m.entries.all fun (name, a) => (n.get? name).any (same a)

/-- Looking up a name after an insertion, at the level of the entries. -/
@[simp] theorem find_put (name other : String) (a : α) (l : List (String × α)) :
    find other (put name a l) = if other = name then some a else find other l := by
  induction l with
  | nil => simp only [put, find, eq_comm]
  | cons e rest ih =>
    obtain ⟨n, b⟩ := e
    by_cases h : n = name
    · subst h
      by_cases ho : other = n
      · simp only [put, find, if_true, ho]
      · simp only [put, find, if_true, ho, if_neg (Ne.symm ho), if_false]
    · by_cases ho : other = name
      · subst ho
        simpa only [put, find, h, if_false, if_true] using ih
      · simpa only [put, find, h, if_false, ho] using congrArg (ite (n = other) (some b)) ih

/-- Insertion sets the content of its own name and leaves all others as they are. -/
@[simp] theorem get?_insert (m : FieldMap α) (name other : String) (a : α) :
    (m.insert name a).get? other = if other = name then some a else m.get? other :=
  find_put name other a m.entries

end FieldMap

end RecordFilter
