import Mathlib.Order.Compare
import RecordFilter.Proofs.Number.Rational
import RecordFilter.Proofs.Text.ByteOrder
import RecordFilter.Value.Basic

/-!
# Proofs/Value/Order — the order of values is exact

A value has a **place** in one of three orders if it is a number, a text or a truth value; null and
NaN have none. Two values are compared exactly if they have places in the same order, and then as
these stand (`compare?_eq_order?`). So what a double cannot hold of an integer is not lost, chains
of integers and doubles included.
-/

namespace RecordFilter

/-! ## Places -/

/-- A place in the order of numbers, of texts, or of truth values. -/
inductive Place
  | number (q : Number)
  | text (s : String)
  | truth (b : Bool)

namespace Place

/-- The order of two places, if they are in the same one. -/
def order? : Place → Place → Option Ordering
  | number p, number q => some (cmp p q)
  | text s, text t => some (cmp s t)
  | truth a, truth b => some (cmp a b)
  | _, _ => none

variable {p q r : Place} {o o' : Ordering}

/-- Places in one order are ordered both ways, and places in different orders neither way. -/
theorem order?_swap (p q : Place) : q.order? p = (p.order? q).map Ordering.swap := by
  cases p with
  | number p =>
    cases q with
    | number q => exact congrArg some (cmp_swap p q).symm
    | _ => rfl
  | text s =>
    cases q with
    | text t => exact congrArg some (cmp_swap s t).symm
    | _ => rfl
  | truth a =>
    cases q with
    | truth b => exact congrArg some (cmp_swap a b).symm
    | _ => rfl

/-- In a chain the first step that is not level decides. -/
theorem cmp_then {α : Type} [LinearOrder α] {a b c : α} (h : cmp a b ≠ .gt) (h' : cmp b c ≠ .gt) :
    cmp a c = (cmp a b).then (cmp b c) := by
  rcases lt_trichotomy a b with hab | rfl | hab
  · rw [(cmp_eq_lt_iff a b).mpr hab]
    refine (cmp_eq_lt_iff a c).mpr (lt_of_lt_of_le hab (not_lt.mp fun hcb => h' ?_))
    exact (cmp_eq_gt_iff b c).mpr hcb
  · rw [cmp_self_eq_eq]
    rfl
  · exact absurd ((cmp_eq_gt_iff a b).mpr hab) h

/-- A chain of places stays in one order, and its first step that is not level decides. -/
theorem order?_trans (h : p.order? q = some o) (h' : q.order? r = some o') (ho : o ≠ .gt)
    (ho' : o' ≠ .gt) : p.order? r = some (o.then o') := by
  cases p with
  | number p =>
    cases q with
    | number q =>
      cases r with
      | number r =>
        obtain rfl := Option.some.inj h
        obtain rfl := Option.some.inj h'
        exact congrArg some (cmp_then ho ho')
      | _ => cases h'
    | _ => cases h
  | text s =>
    cases q with
    | text t =>
      cases r with
      | text u =>
        obtain rfl := Option.some.inj h
        obtain rfl := Option.some.inj h'
        exact congrArg some (cmp_then ho ho')
      | _ => cases h'
    | _ => cases h
  | truth a =>
    cases q with
    | truth b =>
      cases r with
      | truth c =>
        obtain rfl := Option.some.inj h
        obtain rfl := Option.some.inj h'
        exact congrArg some (cmp_then ho ho')
      | _ => cases h'
    | _ => cases h

end Place

namespace Value

/-- Whether the value is a number: an integer, or a double other than NaN. -/
def isNumber : Value → Bool
  | int _ => true
  | float x => !x.isNaN
  | _ => false

/-- What a number denotes. -/
def number? : Value → Option Number
  | int n => some ((n.toInt : ℚ) : WithTop ℚ)
  | float x => x.number?
  | _ => none

/-- The place of a value, if it has one. -/
def place? : Value → Option Place
  | null => none
  | bool b => some (.truth b)
  | str s => some (.text s)
  | v => v.number?.map .number

/-! ## The order of values -/

variable {a b c : Value} {o o' : Ordering}

theorem compare_eq_cmp_number (m n : Int64) :
    compare m n =
      cmp (((m.toInt : ℚ) : WithTop ℚ) : Number) (((n.toInt : ℚ) : WithTop ℚ) : Number) := by
  have hmono : StrictMono fun k : Int => (((k : ℚ) : WithTop ℚ) : Number) := fun _ _ h =>
    WithBot.coe_lt_coe.mpr (WithTop.coe_lt_coe.mpr (Int.cast_lt.mpr h))
  rw [Double.compare_eq_compare_toInt, ← cmp_eq_compare]
  exact (hmono.cmp_map_eq m.toInt n.toInt).symm

/-- **An integer and a double compare as the numbers they denote.** -/
theorem compareInteger?_eq_cmp (n : Int64) (x : Double) :
    x.compareInteger? n = x.number?.map (cmp (((n.toInt : ℚ) : WithTop ℚ) : Number)) := by
  rw [Double.compareInteger?_eq, Double.number?_eq, Option.map_map]
  refine Option.map_congr fun q _ => ?_
  rw [Quantity.compare_eq_cmp, Quantity.toNumber_ofInt]
  rfl

theorem double_compare?_eq_cmp (x y : Double) :
    x.compare? y = x.number?.bind fun p => y.number?.map (cmp p) := by
  rw [Double.compare?, Double.number?_eq, Double.number?_eq]
  cases x.quantity? with
  | none => rfl
  | some p =>
    cases y.quantity? with
    | none => rfl
    | some q => exact congrArg some (Quantity.compare_eq_cmp p q)

/-- A double has its place among the numbers, unless it is NaN. -/
@[simp] theorem place?_float (x : Double) : (float x).place? = x.number?.map .number := rfl

/-- **Two values have an order exactly if they have places in the same one**, and it is the order of
these. -/
theorem compare?_eq_order? (a b : Value) :
    a.compare? b = a.place?.bind fun p => b.place?.bind p.order? := by
  cases a with
  | null => rfl
  | bool a =>
    cases b with
    | bool b => exact congrArg some (cmp_eq_compare a b).symm
    | float y =>
      rw [place?_float]
      cases y.number? <;> rfl
    | _ => rfl
  | int m =>
    cases b with
    | int n => exact congrArg some (compare_eq_cmp_number m n)
    | float y =>
      rw [compare?, compareInteger?_eq_cmp, place?_float]
      cases y.number? <;> rfl
    | _ => rfl
  | float x =>
    rw [place?_float]
    cases b with
    | int n =>
      rw [compare?, compareInteger?_eq_cmp]
      cases x.number? with
      | none => rfl
      | some p => exact congrArg some (cmp_swap _ p)
    | float y =>
      rw [compare?, double_compare?_eq_cmp, place?_float]
      cases x.number? with
      | none => rfl
      | some p => cases y.number? <;> rfl
    | _ => cases x.number? <;> rfl
  | str s =>
    cases b with
    | str t => exact congrArg some (cmp_eq_compare s t).symm
    | float y =>
      rw [place?_float]
      cases y.number? <;> rfl
    | _ => rfl

/-- **Exchanging two values exchanges their order**, and leaves it missing where it is missing. -/
theorem compare?_swap (a b : Value) : b.compare? a = (a.compare? b).map Ordering.swap := by
  rw [compare?_eq_order?, compare?_eq_order?]
  cases a.place? with
  | none => cases b.place? <;> rfl
  | some p =>
    cases b.place? with
    | none => rfl
    | some q => exact Place.order?_swap p q

/-- Values that have an order have places, and these have the order. -/
theorem exists_place?_of_compare? (h : a.compare? b = some o) :
    ∃ p q, a.place? = some p ∧ b.place? = some q ∧ p.order? q = some o := by
  rw [compare?_eq_order?] at h
  obtain ⟨p, hp, h⟩ := Option.bind_eq_some_iff.mp h
  obtain ⟨q, hq, h⟩ := Option.bind_eq_some_iff.mp h
  exact ⟨p, q, hp, hq, h⟩

/-- **The order is transitive**, and strict where one of the two steps is. -/
theorem compare?_trans (h : a.compare? b = some o) (h' : b.compare? c = some o')
    (ho : o ≠ .gt) (ho' : o' ≠ .gt) : a.compare? c = some (o.then o') := by
  obtain ⟨p, q, hp, hq, h⟩ := exists_place?_of_compare? h
  obtain ⟨q', r, hq', hr, h'⟩ := exists_place?_of_compare? h'
  obtain rfl := Option.some.inj (hq.symm.trans hq')
  rw [compare?_eq_order?, hp, hr]
  exact Place.order?_trans h h' ho ho'

/-! ## Who has an order -/

/-- Numbers are the values that denote one, so NaN is none. -/
theorem isNumber_iff (v : Value) : v.isNumber = true ↔ ∃ p, v.number? = some p := by
  cases v with
  | int n => exact iff_of_true rfl ⟨_, rfl⟩
  | float x =>
    have hnan : x.isNaN = true ↔ x.number? = none := by
      rw [Double.number?_eq, Option.map_eq_none_iff, Double.quantity?_eq_none_iff]
    rw [isNumber, Bool.not_eq_true', ← Bool.not_eq_true, hnan]
    exact Option.ne_none_iff_exists'
  | _ => exact iff_of_false Bool.false_ne_true fun ⟨_, h⟩ => nomatch h

/-- Who has a place among the numbers; the two laws below tell it of texts and truth values. -/
@[simp] theorem place?_eq_number_iff {v : Value} {r : Number} :
    v.place? = some (.number r) ↔ v.number? = some r := by
  have hmap : v.number?.map Place.number = some (.number r) ↔ v.number? = some r := by
    rw [Option.map_eq_some_iff]
    exact ⟨fun ⟨_, h, e⟩ => Place.number.inj e ▸ h, fun h => ⟨r, h, rfl⟩⟩
  cases v with
  | int n => exact hmap
  | float x => exact hmap
  | _ => exact iff_of_false nofun nofun

@[simp] theorem place?_eq_text_iff {v : Value} {s : String} :
    v.place? = some (.text s) ↔ v = .str s := by
  cases v with
  | float x => simp
  | _ => simp [place?]

@[simp] theorem place?_eq_truth_iff {v : Value} {b : Bool} :
    v.place? = some (.truth b) ↔ v = .bool b := by
  cases v with
  | float x => simp
  | _ => simp [place?]

/-- Two numbers are ordered as what they denote. -/
theorem compare?_of_isNumber (ha : a.isNumber = true) (hb : b.isNumber = true) :
    ∃ p q, a.number? = some p ∧ b.number? = some q ∧ a.compare? b = some (cmp p q) := by
  obtain ⟨p, hp⟩ := (isNumber_iff a).mp ha
  obtain ⟨q, hq⟩ := (isNumber_iff b).mp hb
  refine ⟨p, q, hp, hq, ?_⟩
  rw [compare?_eq_order?, place?_eq_number_iff.mpr hp, place?_eq_number_iff.mpr hq]
  rfl

/-- **Only numbers, texts and truth values have an order**, each among themselves. -/
theorem isSome_compare?_iff (a b : Value) : (a.compare? b).isSome = true ↔
    a.isNumber = true ∧ b.isNumber = true ∨ (∃ s t, a = .str s ∧ b = .str t) ∨
      ∃ p q, a = .bool p ∧ b = .bool q := by
  constructor
  · intro h
    obtain ⟨o, ho⟩ := Option.isSome_iff_exists.mp h
    obtain ⟨p, q, hp, hq, hpq⟩ := exists_place?_of_compare? ho
    cases p with
    | number p =>
      cases q with
      | number q =>
        exact .inl ⟨(isNumber_iff a).mpr ⟨p, place?_eq_number_iff.mp hp⟩,
          (isNumber_iff b).mpr ⟨q, place?_eq_number_iff.mp hq⟩⟩
      | _ => cases hpq
    | text s =>
      cases q with
      | text t =>
        exact .inr (.inl ⟨s, t, place?_eq_text_iff.mp hp, place?_eq_text_iff.mp hq⟩)
      | _ => cases hpq
    | truth p =>
      cases q with
      | truth q =>
        exact .inr (.inr ⟨p, q, place?_eq_truth_iff.mp hp, place?_eq_truth_iff.mp hq⟩)
      | _ => cases hpq
  · rintro (⟨ha, hb⟩ | ⟨s, t, rfl, rfl⟩ | ⟨p, q, rfl, rfl⟩)
    · obtain ⟨p, q, -, -, h⟩ := compare?_of_isNumber ha hb
      rw [h]
      rfl
    · rfl
    · rfl

/-- Texts are ordered as their bytes are. -/
theorem str_compare?_str (s t : String) :
    (str s).compare? (str t) = some (cmp (Text.bytes s) (Text.bytes t)) := by
  have h : cmp s t = cmp (Text.bytes s) (Text.bytes t) := by
    unfold cmp cmpUsing
    simp only [Text.bytes_lt_bytes_iff]
  rw [← h]
  exact congrArg some (cmp_eq_compare s t).symm

@[simp] theorem bool_compare?_bool (p q : Bool) : (bool p).compare? (bool q) = some (cmp p q) :=
  congrArg some (cmp_eq_compare p q).symm

/-! ## Equality -/

@[simp] theorem quantity_compare_eq_iff (p q : Quantity) : p.compare q = .eq ↔ p = q := by
  cases p <;> cases q <;> simp [Quantity.compare]

/-- Equality of doubles is that of their order: the zeros are equal, and NaN equals nothing. -/
theorem float_equals_iff (x y : Double) : x.equals y = true ↔ x.compare? y = some .eq := by
  rw [Double.equals, Double.compare?]
  cases x.quantity? with
  | none => exact iff_of_false Bool.false_ne_true (Option.some_ne_none _).symm
  | some p =>
    cases y.quantity? with
    | none => exact iff_of_false Bool.false_ne_true (Option.some_ne_none _).symm
    | some q => simp

/-- Equality of integers is that of their order. -/
theorem int_equals_iff (m n : Int64) : (int m).compare? (int n) = some .eq ↔ m = n := by
  rw [compare?, Option.some_inj, Double.compare_eq_compare_toInt, compare_eq_iff_eq,
    Int64.toInt_inj]

/-- **Equal are two values that have an order and are level in it**, and nulls. -/
theorem equals_iff (a b : Value) :
    a.equals b = true ↔ a.compare? b = some .eq ∨ a = .null ∧ b = .null := by
  cases a with
  | null =>
    cases b with
    | null => exact iff_of_true rfl (.inr ⟨rfl, rfl⟩)
    | _ => exact iff_of_false Bool.false_ne_true nofun
  | bool p =>
    cases b with
    | bool q => simp [equals, sameAs, compare?]
    | _ => exact iff_of_false Bool.false_ne_true nofun
  | int m =>
    cases b with
    | int n => simp [equals, sameAs, int_equals_iff m n]
    | float y => simp [equals]
    | _ => exact iff_of_false Bool.false_ne_true nofun
  | float x =>
    cases b with
    | int n => simp [equals]
    | float y => simp [equals, sameAs, compare?, float_equals_iff x y]
    | _ => exact iff_of_false Bool.false_ne_true nofun
  | str s =>
    cases b with
    | str t => simp [equals, sameAs, compare?]
    | _ => exact iff_of_false Bool.false_ne_true nofun

/-- Equality is symmetric, null and NaN included. -/
theorem equals_symm (h : a.equals b = true) : b.equals a = true := by
  rw [equals_iff] at h ⊢
  rcases h with h | ⟨rfl, rfl⟩
  · rw [compare?_swap, h]
    exact .inl rfl
  · exact .inr ⟨rfl, rfl⟩

/-- **Equality is transitive**, also across integers and doubles: it is that of what they denote. -/
theorem equals_trans (h : a.equals b = true) (h' : b.equals c = true) : a.equals c = true := by
  rw [equals_iff] at h h' ⊢
  rcases h with h | ⟨rfl, rfl⟩
  · rcases h' with h' | ⟨rfl, rfl⟩
    · exact .inl (compare?_trans h h' nofun nofun)
    · rw [compare?_swap] at h
      cases h
  · rcases h' with h' | ⟨-, rfl⟩
    · cases h'
    · exact .inr ⟨rfl, rfl⟩

/-- Every value equals itself, NaN apart. -/
theorem equals_self_iff (a : Value) : a.equals a = true ↔ ∀ x, a = .float x → x.isNaN = false := by
  cases a with
  | float x =>
    have h : (float x).equals (float x) = true ↔ x.quantity? ≠ none := by
      rw [show (float x).equals (float x) = x.equals x from rfl, Double.equals]
      cases x.quantity? <;> simp
    rw [h, Ne, Double.quantity?_eq_none_iff, Bool.not_eq_true]
    exact ⟨fun hx _ e => Value.float.inj e ▸ hx, fun hx => hx x rfl⟩
  | null => exact iff_of_true rfl nofun
  | _ => exact iff_of_true (decide_eq_true rfl) nofun

/-- **The order of values is exact**: numbers, whatever their mix, are ordered as what they denote,
texts as their bytes, and false is below true; nothing else has an order. So the order is
antisymmetric and transitive, and equality, which is its middle or two nulls, is symmetric,
transitive, and reflexive but for NaN. -/
theorem order_exact (a b c : Value) :
    ((a.compare? b).isSome = true ↔
      a.isNumber = true ∧ b.isNumber = true ∨ (∃ s t, a = .str s ∧ b = .str t) ∨
        ∃ p q, a = .bool p ∧ b = .bool q) ∧
    (a.isNumber = true → b.isNumber = true →
      ∃ p q, a.number? = some p ∧ b.number? = some q ∧ a.compare? b = some (cmp p q)) ∧
    (∀ s t, (str s).compare? (str t) = some (cmp (Text.bytes s) (Text.bytes t))) ∧
    (∀ p q, (bool p).compare? (bool q) = some (cmp p q)) ∧
    b.compare? a = (a.compare? b).map Ordering.swap ∧
    (∀ o o', a.compare? b = some o → b.compare? c = some o' → o ≠ .gt → o' ≠ .gt →
      a.compare? c = some (o.then o')) ∧
    (a.equals b = true ↔ a.compare? b = some .eq ∨ a = .null ∧ b = .null) ∧
    (a.equals b = true → b.equals a = true) ∧
    (a.equals b = true → b.equals c = true → a.equals c = true) ∧
    (a.equals a = true ↔ ∀ x, a = .float x → x.isNaN = false) :=
  ⟨isSome_compare?_iff a b, compare?_of_isNumber, str_compare?_str, bool_compare?_bool,
    compare?_swap a b, fun _ _ => compare?_trans, equals_iff a b, equals_symm, equals_trans,
    equals_self_iff a⟩

/-- An integer, the double that denotes it, and the next integer, which no double denotes. -/
theorem order_exact_beyond_two_pow_53 :
    (int 9007199254740992).compare? (float ⟨0x4340000000000000⟩) = some .eq ∧
    (float ⟨0x4340000000000000⟩).compare? (int 9007199254740993) = some .lt ∧
    (int 9007199254740992).compare? (int 9007199254740993) = some .lt ∧
    (∃ p q, (int 9007199254740992).number? = some p ∧
      (float ⟨0x4340000000000000⟩).number? = some q ∧
      (int 9007199254740992).compare? (float ⟨0x4340000000000000⟩) = some (cmp p q)) ∧
    (float ⟨0x4340000000000000⟩).equals (int 9007199254740992) = true ∧
    (int 9007199254740992).equals (int 9007199254740992) = true := by
  have heq : (int 9007199254740992).compare? (float ⟨0x4340000000000000⟩) = some .eq := by
    decide +kernel
  have hlt : (float ⟨0x4340000000000000⟩).compare? (int 9007199254740993) = some .lt := by
    decide +kernel
  have hequals : (int 9007199254740992).equals (float ⟨0x4340000000000000⟩) = true := by
    decide +kernel
  obtain ⟨-, hnumber, -, -, -, htrans, -, hsymm, -, -⟩ :=
    order_exact (int 9007199254740992) (float ⟨0x4340000000000000⟩) (int 9007199254740993)
  obtain ⟨-, -, -, -, -, -, -, -, hequals_trans, -⟩ :=
    order_exact (int 9007199254740992) (float ⟨0x4340000000000000⟩) (int 9007199254740992)
  exact ⟨heq, hlt, htrans _ _ heq hlt (by decide) (by decide),
    hnumber rfl (by decide +kernel), hsymm hequals, hequals_trans hequals (hsymm hequals)⟩

end Value

end RecordFilter
