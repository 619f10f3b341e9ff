import Mathlib.Data.List.DropRight
import RecordFilter.Proofs.Json.Numbers
import RecordFilter.Proofs.Json.Strings

/-!
# Proofs/Json/Trees — a tree is read back from its text

The text of a tree is read as the tree, whatever may follow it (`Legible.readsBack`), if the tree is
*legible*: no part of it is unreadable, and its numbers are ones that the reader gives back. The
induction is on the tree; the items of an array and the members of an object are inductions on their
lists, with the trees in them as hypotheses.
-/

namespace RecordFilter.Json

open Reader

variable {cs rest : List Char} {j : Json} {fuel : Nat}

/-- A tree that its own text stands for: integers have sixty-four bits, with a sign or without, and
doubles are read back. -/
inductive Legible : Json → Prop
  | null : Legible null
  | bool (b : Bool) : Legible (bool b)
  | int {n : Int} (hlow : -(Nat.pow 2 63 : Int) ≤ n) (hhigh : n < Nat.pow 2 64) : Legible (int n)
  | float {x : Double} (h : x.isReadBack = true) : Legible (float x)
  | str (s : String) : Legible (str s)
  | arr {items : List Json} (h : ∀ j ∈ items, Legible j) : Legible (arr items)
  | obj {members : List (String × Json)} (h : ∀ m ∈ members, Legible m.2) : Legible (obj members)

/-! ## One step of the reader -/

@[simp]
theorem skipBlanks_skipBlanks (cs : List Char) : skipBlanks (skipBlanks cs) = skipBlanks cs :=
  List.dropWhile_idempotent isBlank cs

/-- Where no blank stands in front, nothing is skipped. -/
theorem skipBlanks_cons {c : Char} (h : isBlank c = false) (cs : List Char) :
    skipBlanks (c :: cs) = c :: cs :=
  List.dropWhile_cons_of_neg (by simp [h])

/-- Readers of trees skip blanks themselves. -/
@[simp] theorem tree?_skipBlanks (fuel : Nat) (cs : List Char) :
    tree? fuel (skipBlanks cs) = tree? fuel cs := by
  rcases fuel with _ | fuel
  · rfl
  · simp [tree?]

@[simp] theorem items?_skipBlanks (fuel : Nat) (cs : List Char) :
    items? fuel (skipBlanks cs) = items? fuel cs := by
  rcases fuel with _ | fuel
  · rfl
  · simp [items?]

/-- No tree starts with the end of an array. -/
theorem items?_closing (h : skipBlanks cs = ']' :: rest) : items? fuel cs = none := by
  rcases fuel with _ | _ | fuel
  · rfl
  · rfl
  · have htree : tree? (fuel + 1) cs = none := by
      rw [tree?, h]
      rfl
    rw [items?, htree]
    rfl

/-- An opening bracket and what its items are read as make an array. -/
theorem tree?_arr {items : List Json} (h : items? fuel cs = some (items, rest)) :
    tree? (fuel + 1) ('[' :: cs) = some (.arr items, rest) := by
  simp only [tree?, skipBlanks_cons (show isBlank '[' = false from rfl)]
  split
  · next hclose =>
    rw [items?_closing hclose] at h
    cases h
  · rw [items?_skipBlanks, h]
    rfl

/-- The last item is followed by the closing bracket. -/
theorem items?_last (h : tree? fuel cs = some (j, ']' :: rest)) :
    items? (fuel + 1) cs = some ([j], rest) := by
  rw [items?, h]
  rfl

/-- An item before others is followed by a comma. -/
theorem items?_cons {cs' : List Char} {items : List Json} (h : tree? fuel cs = some (j, ',' :: cs'))
    (hitems : items? fuel cs' = some (items, rest)) :
    items? (fuel + 1) cs = some (j :: items, rest) := by
  simp [items?, h, skipBlanks_cons, isBlank, hitems]

@[simp] theorem members?_skipBlanks (fuel : Nat) (cs : List Char) :
    members? fuel (skipBlanks cs) = members? fuel cs := by
  rcases fuel with _ | fuel
  · rfl
  · simp [members?]

/-- No member starts with the end of an object. -/
theorem members?_closing (h : skipBlanks cs = '\x7d' :: rest) : members? fuel cs = none := by
  rcases fuel with _ | fuel
  · rfl
  · rw [members?, h]
    rfl

/-- An opening brace and what its members are read as make an object. -/
theorem tree?_obj {members : List (Option String × Json)}
    (h : members? fuel cs = some (members, rest)) :
    tree? (fuel + 1) ('\x7b' :: cs) = some (objectOf members, rest) := by
  simp only [tree?, skipBlanks_cons (show isBlank '\x7b' = false from rfl)]
  split
  · next hclose =>
    rw [members?_closing hclose] at h
    cases h
  · rw [members?_skipBlanks, h]
    rfl

@[simp] theorem stringText_append (s : String) (rest : List Char) :
    (stringText s).toList ++ rest = '"' :: (s.toList.flatMap escapeChar ++ '"' :: rest) := by
  simp [stringText]

/-- **A string is read back**, whatever its characters are and whatever follows. -/
theorem tree?_str (s : String) (rest : List Char) :
    tree? (fuel + 1) ((stringText s).toList ++ rest) = some (.str s, rest) := by
  simp [tree?, skipBlanks_cons, isBlank]

theorem members?_last (key : String) (h : tree? fuel cs = some (j, '\x7d' :: rest)) :
    members? (fuel + 1) ((stringText key).toList ++ ':' :: cs) = some ([(some key, j)], rest) := by
  simp [members?, skipBlanks_cons, isBlank, h]

theorem members?_cons {members : List (Option String × Json)} {cs' : List Char} (key : String)
    (h : tree? fuel cs = some (j, ',' :: cs'))
    (hmembers : members? fuel cs' = some (members, rest)) :
    members? (fuel + 1) ((stringText key).toList ++ ':' :: cs) =
      some ((some key, j) :: members, rest) := by
  simp [members?, skipBlanks_cons, isBlank, h, hmembers]

theorem isBlank_of_isDigit {c : Char} (h : c.isDigit = true) : isBlank c = false := by
  by_contra hblank
  simp only [isBlank, Bool.not_eq_false, Bool.or_eq_true, decide_eq_true_eq] at hblank
  rcases hblank with ((rfl | rfl) | rfl) | rfl <;> cases h

/-- What starts as a number does is read as a number. -/
theorem tree?_cons_of_isDigit {c : Char} (h : c = '-' ∨ c.isDigit = true) (cs : List Char) :
    tree? (fuel + 1) (c :: cs) = number? (c :: cs) := by
  have hblank : isBlank c = false := by
    rcases h with rfl | h
    · rfl
    · exact isBlank_of_isDigit h
  rw [tree?, skipBlanks_cons hblank]
  split
  case h_7 => rfl
  -- every other tree starts with a character that is no digit
  all_goals
    next heq =>
      obtain ⟨rfl, rfl⟩ := List.cons.inj heq
      rcases h with h | h <;> cases h

/-- A number is read up to where it ends. -/
theorem tree?_number (h : number? cs = some (j, [])) (hrest : EndsNumber rest) :
    tree? (fuel + 1) (cs ++ rest) = some (j, rest) := by
  obtain ⟨c, cs', rfl, hc⟩ := number?_cons h
  rw [List.cons_append, tree?_cons_of_isDigit hc, ← List.cons_append, number?_append hrest, h]
  rfl

/-- Reading each of the things that were written gives them back. -/
theorem mapM_map_eq_some {α β : Type} {write : α → β} {read? : β → Option α} {l : List α}
    (h : ∀ a ∈ l, read? (write a) = some a) : (l.map write).mapM read? = some l := by
  induction l with
  | nil => rfl
  | cons a l ih =>
    have hrest := ih fun b hb => h b (List.mem_cons_of_mem a hb)
    simp [h a List.mem_cons_self, hrest]

/-- Keys that were all read make an object. -/
@[simp] theorem objectOf_some (members : List (String × Json)) :
    objectOf (members.map fun m => (some m.1, m.2)) = .obj members := by
  rw [objectOf, mapM_map_eq_some]
  intro m _
  rfl

/-! ## Whole trees -/

/-- The text of a tree is read as the tree, up to where it ends, given a bound beyond its length. -/
def ReadsBack (j : Json) : Prop :=
  ∀ fuel : Nat, j.text.length < fuel → ∀ rest : List Char, EndsNumber rest →
    tree? fuel (j.text.toList ++ rest) = some (j, rest)

/-- The items of an array are read one by one. -/
theorem items?_text {items : List Json} (hne : items ≠ []) (h : ∀ j ∈ items, ReadsBack j)
    (hfuel : (",".intercalate (itemTexts items)).length + 1 < fuel) (rest : List Char) :
    items? fuel ((",".intercalate (itemTexts items)).toList ++ ']' :: rest) =
      some (items, rest) := by
  induction items generalizing fuel with
  | nil => exact absurd rfl hne
  | cons j items ih =>
    obtain ⟨fuel, rfl⟩ := Nat.exists_eq_add_one.mpr (Nat.zero_lt_of_lt hfuel)
    have hj : ReadsBack j := h j List.mem_cons_self
    rcases items with _ | ⟨k, items⟩
    · simp only [itemTexts, String.intercalate_singleton] at hfuel ⊢
      exact items?_last (hj fuel (by omega) _ (endsNumber_cons (.inr (.inl rfl)) rest))
    · simp only [itemTexts, String.intercalate_cons_cons, String.length_append,
        String.toList_append, List.append_assoc] at hfuel ih ⊢
      have hcomma : ",".length = 1 := rfl
      have hitems := @ih fuel (List.cons_ne_nil _ _) (fun i hi => h i (List.mem_cons_of_mem j hi))
        (by omega)
      exact items?_cons (hj fuel (by omega) _ (endsNumber_cons (.inl rfl) _)) hitems

/-- The members of an object are read one by one. -/
theorem members?_text {members : List (String × Json)} (hne : members ≠ [])
    (h : ∀ m ∈ members, ReadsBack m.2)
    (hfuel : (",".intercalate (memberTexts members)).length + 1 < fuel) (rest : List Char) :
    members? fuel ((",".intercalate (memberTexts members)).toList ++ '\x7d' :: rest) =
      some (members.map fun m => (some m.1, m.2), rest) := by
  induction members generalizing fuel with
  | nil => exact absurd rfl hne
  | cons m members ih =>
    obtain ⟨key, j⟩ := m
    obtain ⟨fuel, rfl⟩ := Nat.exists_eq_add_one.mpr (Nat.zero_lt_of_lt hfuel)
    have hj : ReadsBack j := h (key, j) List.mem_cons_self
    rcases members with _ | ⟨k, members⟩
    · simp only [memberTexts, String.intercalate_singleton, String.length_append,
        String.toList_append, List.append_assoc] at hfuel ⊢
      exact members?_last key (hj fuel (by omega) _ (endsNumber_cons (.inr (.inr rfl)) rest))
    · simp only [memberTexts, String.intercalate_cons_cons, String.length_append,
        String.toList_append, List.append_assoc] at hfuel ih ⊢
      have hcomma : ",".length = 1 := rfl
      have hmembers := @ih fuel (List.cons_ne_nil _ _) (fun m hm => h m (List.mem_cons_of_mem _ hm))
        (by omega)
      exact members?_cons key (hj fuel (by omega) _ (endsNumber_cons (.inl rfl) _)) hmembers

/-- An array is read back if its items are. -/
theorem readsBack_arr {items : List Json} (h : ∀ j ∈ items, ReadsBack j) :
    ReadsBack (arr items) := by
  intro fuel hfuel rest _
  obtain ⟨fuel, rfl⟩ := Nat.exists_eq_add_one.mpr (Nat.zero_lt_of_lt hfuel)
  rcases items with _ | ⟨j, items⟩
  · rfl
  · simp only [text, String.length_append, String.toList_append, List.append_assoc] at hfuel ⊢
    have hbrackets : "[".length = 1 ∧ "]".length = 1 := ⟨rfl, rfl⟩
    exact tree?_arr (items?_text (List.cons_ne_nil j items) h (by omega) rest)

/-- An object is read back if its members are, with their keys in order. -/
theorem readsBack_obj {members : List (String × Json)} (h : ∀ m ∈ members, ReadsBack m.2) :
    ReadsBack (obj members) := by
  intro fuel hfuel rest _
  obtain ⟨fuel, rfl⟩ := Nat.exists_eq_add_one.mpr (Nat.zero_lt_of_lt hfuel)
  rcases members with _ | ⟨m, members⟩
  · rfl
  · simp only [text, String.length_append, String.toList_append, List.append_assoc] at hfuel ⊢
    have hbraces : "\x7b".length = 1 ∧ "\x7d".length = 1 := ⟨rfl, rfl⟩
    rw [← objectOf_some]
    exact tree?_obj (members?_text (List.cons_ne_nil m members) h (by omega) rest)

/-- A tree without parts needs one step. -/
theorem readsBack_of_step (h : ∀ (fuel : Nat) (rest : List Char), EndsNumber rest →
    tree? (fuel + 1) (j.text.toList ++ rest) = some (j, rest)) : ReadsBack j := by
  intro fuel hfuel rest hrest
  obtain ⟨fuel, rfl⟩ := Nat.exists_eq_add_one.mpr (Nat.zero_lt_of_lt hfuel)
  exact h fuel rest hrest

/-- **A legible tree is read back from its text.** -/
theorem Legible.readsBack (h : Legible j) : ReadsBack j := by
  induction h with
  | null => exact readsBack_of_step fun _ _ _ => rfl
  | bool b => exact readsBack_of_step fun _ _ _ => by rcases b with _ | _ <;> rfl
  | int hlow hhigh =>
    exact readsBack_of_step fun _ _ hrest => tree?_number (number?_int hlow hhigh) hrest
  | float h =>
    exact readsBack_of_step fun _ _ hrest => tree?_number (Double.isReadBack_iff.mp h) hrest
  | str s => exact readsBack_of_step fun _ rest _ => tree?_str s rest
  | arr _ ih => exact readsBack_arr ih
  | obj _ ih => exact readsBack_obj ih

/-- The reader of whole texts takes a legible tree's text, of which nothing is left over. -/
theorem parse?_text (h : Legible j) : parse? j.text = some j := by
  have hlength : j.text.length < j.text.toList.length + 1 := by
    rw [String.length_toList]
    exact Nat.lt_succ_self _
  have htree := h.readsBack _ hlength [] endsNumber_nil
  rw [List.append_nil] at htree
  rw [parse?, htree]
  rfl

end RecordFilter.Json
