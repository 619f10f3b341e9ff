import Mathlib.Data.List.TakeWhile
import RecordFilter.Json.Reader
import RecordFilter.Json.Text

/-!
# Proofs/Json/Numbers — a number is read back from its text

A reader of numbers stops where a number ends, so what it makes of a number does not depend on what
follows (`numeral?_append`). An integer of sixty-four bits, with a sign or without, is read back
from its digits (`number?_int`). A double is read with two roundings, so not every double is the
one that its text is read as; those that are (`Double.isReadBack`) are finite.
-/

namespace RecordFilter

namespace Json

open Reader

variable {cs rest : List Char} {j : Json}

/-! ## Where a number ends -/

/-- The text may follow a number in a tree: it is empty, or goes on with a comma or a closing
bracket. -/
def EndsNumber (rest : List Char) : Prop := ∀ c ∈ rest.head?, c = ',' ∨ c = ']' ∨ c = '\x7d'

theorem endsNumber_nil : EndsNumber [] := nofun

theorem endsNumber_cons {c : Char} (h : c = ',' ∨ c = ']' ∨ c = '\x7d') (rest : List Char) :
    EndsNumber (c :: rest) := by
  rintro _ ⟨⟩
  exact h

/-- What may follow a number, case by case; each of them stops a reader of digits. -/
theorem EndsNumber.eq_nil_or_cons (h : EndsNumber rest) :
    rest = [] ∨ ∃ rest', rest = ',' :: rest' ∨ rest = ']' :: rest' ∨ rest = '\x7d' :: rest' := by
  rcases rest with _ | ⟨c, rest⟩
  · exact .inl rfl
  · rcases h c rfl with rfl | rfl | rfl <;> simp

/-! ## What follows a number is left over -/

/-- What a reader returned, with more text behind. -/
def followedBy {α : Type} (rest : List Char) (p : α × List Char) : α × List Char :=
  (p.1, p.2 ++ rest)

/-- Digits are taken up to the same place, whatever follows the number. -/
theorem takeDigits_append (h : EndsNumber rest) (cs : List Char) :
    takeDigits (cs ++ rest) = followedBy rest (takeDigits cs) := by
  induction cs with
  | nil => obtain rfl | ⟨rest, rfl | rfl | rfl⟩ := h.eq_nil_or_cons <;> rfl
  | cons c cs ih =>
    rcases hc : c.isDigit with _ | _
    · simp [takeDigits, followedBy, hc]
    · simp only [takeDigits, followedBy, List.cons_append, List.takeWhile_cons,
        List.dropWhile_cons, hc, if_true, List.filterMap_cons, Prod.mk.injEq] at ih ⊢
      rw [ih.1, ih.2]
      exact ⟨rfl, rfl⟩

theorem someDigits?_append (h : EndsNumber rest) (cs : List Char) :
    someDigits? (cs ++ rest) = (someDigits? cs).map (followedBy rest) := by
  rw [someDigits?, someDigits?, takeDigits_append h]
  rcases takeDigits cs with ⟨_ | ⟨d, ds⟩, left⟩ <;> rfl

theorem wholeDigits?_append (h : EndsNumber rest) (cs : List Char) :
    wholeDigits? (cs ++ rest) = (wholeDigits? cs).map (followedBy rest) := by
  rw [wholeDigits?, wholeDigits?, takeDigits_append h]
  rcases takeDigits cs with ⟨_ | ⟨_ | d, _ | ⟨e, ds⟩⟩, left⟩ <;> rfl

theorem fraction?_append (h : EndsNumber rest) (cs : List Char) :
    fraction? (cs ++ rest) = (fraction? cs).map (followedBy rest) := by
  rcases cs with _ | ⟨c, cs⟩
  · obtain rfl | ⟨rest, rfl | rfl | rfl⟩ := h.eq_nil_or_cons <;> rfl
  · by_cases hc : c = '.'
    · subst hc
      exact someDigits?_append h cs
    · simp [fraction?, followedBy, hc]

theorem exponent?_append (h : EndsNumber rest) (cs : List Char) :
    exponent? (cs ++ rest) = (exponent? cs).map (followedBy rest) := by
  rcases cs with _ | ⟨c, cs⟩
  · obtain rfl | ⟨rest, rfl | rfl | rfl⟩ := h.eq_nil_or_cons <;> rfl
  · by_cases hc : c = 'e' ∨ c = 'E'
    · rcases cs with _ | ⟨d, cs⟩
      -- no digit follows the letter, so the whole text is refused as its end is
      · obtain rfl | ⟨rest, rfl | rfl | rfl⟩ := h.eq_nil_or_cons <;>
          simp [exponent?, hc, someDigits?, takeDigits]
      · by_cases hminus : d = '-'
        · subst hminus
          simp [exponent?, hc, someDigits?_append h, Function.comp_def, followedBy]
        · by_cases hplus : d = '+'
          · subst hplus
            simp [exponent?, hc, someDigits?_append h, Function.comp_def, followedBy]
          · have hd := someDigits?_append h (d :: cs)
            rw [List.cons_append] at hd
            simp [exponent?, hc, hminus, hplus, hd, Function.comp_def, followedBy]
    · simp [exponent?, hc, followedBy]

/-- A number without its sign is read the same, whatever follows. -/
theorem unsigned?_append (negative : Bool) (h : EndsNumber rest) (cs : List Char) :
    unsigned? negative (cs ++ rest) = (unsigned? negative cs).map (followedBy rest) := by
  simp only [unsigned?, wholeDigits?_append h]
  rcases wholeDigits? cs with _ | ⟨whole, cs⟩
  · rfl
  simp only [Option.map_some, Option.bind_eq_bind, Option.bind_some, followedBy, fraction?_append h]
  rcases fraction? cs with _ | ⟨fraction, cs⟩
  · rfl
  simp only [Option.map_some, Option.bind_some, followedBy, exponent?_append h]
  rcases exponent? cs with _ | ⟨exponent, cs⟩ <;> rfl

/-- **The reader of numbers stops where a number ends**: what it makes of a text does not depend on
what follows. -/
theorem numeral?_append (h : EndsNumber rest) (cs : List Char) :
    numeral? (cs ++ rest) = (numeral? cs).map (followedBy rest) := by
  rcases cs with _ | ⟨c, cs⟩
  · obtain rfl | ⟨rest, rfl | rfl | rfl⟩ := h.eq_nil_or_cons <;> rfl
  · by_cases hc : c = '-'
    · subst hc
      exact unsigned?_append true h cs
    · have := unsigned?_append false h (c :: cs)
      simpa [numeral?, hc] using this

/-- **A number is read the same, whatever follows it in a tree.** -/
theorem number?_append (h : EndsNumber rest) (cs : List Char) :
    number? (cs ++ rest) = (number? cs).map (followedBy rest) := by
  rw [number?, number?, numeral?_append h]
  rcases numeral? cs with _ | p <;> rfl

/-! ## Where a number starts -/

/-- A whole part starts with a digit. -/
theorem wholeDigits?_cons {p : List Nat × List Char} (h : wholeDigits? cs = some p) :
    ∃ c cs', cs = c :: cs' ∧ c.isDigit = true := by
  rcases cs with _ | ⟨c, cs⟩
  · cases h
  · refine ⟨c, cs, rfl, ?_⟩
    by_contra hc
    simp [wholeDigits?, takeDigits, hc] at h

/-- A number starts with its sign or a digit. -/
theorem numeral?_cons {p : Numeral × List Char} (h : numeral? cs = some p) :
    ∃ c cs', cs = c :: cs' ∧ (c = '-' ∨ c.isDigit = true) := by
  unfold numeral? at h
  split at h
  · exact ⟨_, _, rfl, .inl rfl⟩
  · rw [unsigned?] at h
    obtain ⟨q, hq, -⟩ := Option.bind_eq_some_iff.mp h
    obtain ⟨c, cs', rfl, hc⟩ := wholeDigits?_cons hq
    exact ⟨c, cs', rfl, .inr hc⟩

/-- What is read as a number starts with a sign or a digit, so no other kind of tree is. -/
theorem number?_cons {p : Json × List Char} (h : number? cs = some p) :
    ∃ c cs', cs = c :: cs' ∧ (c = '-' ∨ c.isDigit = true) := by
  obtain ⟨q, hq, -⟩ := Option.map_eq_some_iff.mp h
  exact numeral?_cons hq

/-- Without a sign a number starts with a digit. -/
theorem numeral?_of_unsigned? {p : Numeral × List Char} (h : unsigned? false cs = some p) :
    numeral? cs = some p := by
  rw [numeral?, h]
  rintro cs' rfl
  rw [unsigned?] at h
  obtain ⟨q, hq, -⟩ := Option.bind_eq_some_iff.mp h
  cases hq

/-! ## Digits -/

/-- The values of digits. -/
def values (cs : List Char) : List Nat := cs.filterMap Text.decimalDigit?

/-- The text has digits only. -/
def AllDigits (cs : List Char) : Prop := ∀ c ∈ cs, c.isDigit = true

theorem allDigits_toDigits (n : Nat) : AllDigits (Nat.toDigits 10 n) := fun _ =>
  Nat.isDigit_of_mem_toDigits (by decide) (by decide)

/-- There are as many values as digits. -/
theorem length_values (h : AllDigits cs) : (values cs).length = cs.length := by
  induction cs with
  | nil => rfl
  | cons c cs ih =>
    obtain ⟨hc, hcs⟩ := List.forall_mem_cons.mp h
    have hdigit : ∃ d, Text.decimalDigit? c = some d := by
      simp only [Char.isDigit, Bool.and_eq_true, decide_eq_true_eq] at hc
      exact ⟨_, if_pos ⟨hc.1, hc.2⟩⟩
    obtain ⟨d, hd⟩ := hdigit
    rw [values, List.filterMap_cons, hd]
    exact congrArg Nat.succ (ih hcs)

/-- Digits are taken up to where they end. -/
theorem takeDigits_allDigits (h : AllDigits cs) (hrest : ∀ c ∈ rest.head?, c.isDigit = false) :
    takeDigits (cs ++ rest) = (values cs, rest) := by
  have hend : rest.takeWhile Char.isDigit = [] ∧ rest.dropWhile Char.isDigit = rest := by
    rcases rest with _ | ⟨c, rest⟩
    · exact ⟨rfl, rfl⟩
    · simp [hrest c rfl]
  rw [takeDigits, List.takeWhile_append_of_pos h, List.dropWhile_append_of_pos h, hend.1, hend.2,
    List.append_nil]
  rfl

/-- A run of digits without a leading zero is read as a whole part. -/
theorem wholeDigits?_of_allDigits (h : AllDigits cs) (hne : cs ≠ [])
    (hzero : ∀ d ds, values cs ≠ 0 :: d :: ds)
    (hrest : ∀ c ∈ rest.head?, c.isDigit = false) :
    wholeDigits? (cs ++ rest) = some (values cs, rest) := by
  have hlength := length_values h
  rw [wholeDigits?, takeDigits_allDigits h hrest]
  rcases hvalues : values cs with _ | ⟨_ | d, _ | ⟨e, ds⟩⟩
  · rw [hvalues] at hlength
    exact absurd (List.length_eq_zero_iff.mp hlength.symm) hne
  · rfl
  · exact absurd hvalues (hzero e ds)
  · rfl
  · rfl

/-! ## Integers -/

/-- The values of the digits of a number. -/
def digitValues (n : Nat) : List Nat := (Nat.toDigits 10 n).filterMap Text.decimalDigit?

theorem decimalDigit?_digitChar : ∀ n < 10, Text.decimalDigit? n.digitChar = some n := by
  decide

/-- A number below ten has one digit. -/
theorem digitValues_of_lt {n : Nat} (h : n < 10) : digitValues n = [n] := by
  rw [digitValues, Nat.toDigits_of_lt_base h, List.filterMap_cons, decimalDigit?_digitChar n h]
  rfl

/-- The last digit comes off the end. -/
theorem digitValues_of_ge {n : Nat} (h : 10 ≤ n) :
    digitValues n = digitValues (n / 10) ++ [n % 10] := by
  rw [digitValues, Nat.toDigits_of_base_le (by decide) h, List.filterMap_append,
    List.filterMap_cons, decimalDigit?_digitChar _ (Nat.mod_lt n (by decide))]
  rfl

/-- One more digit multiplies by ten. -/
@[simp] theorem ofDigits_append_singleton (ds : List Nat) (d : Nat) :
    Text.ofDigits 10 (ds ++ [d]) = 10 * Text.ofDigits 10 ds + d :=
  List.foldl_append

/-- **The digits of a number denote it.** -/
@[simp] theorem ofDigits_digitValues (n : Nat) : Text.ofDigits 10 (digitValues n) = n := by
  induction n using Nat.strongRecOn with
  | ind n ih =>
    rcases Nat.lt_or_ge n 10 with hlt | hge
    · simp [digitValues_of_lt hlt, Text.ofDigits]
    · rw [digitValues_of_ge hge, ofDigits_append_singleton, ih (n / 10) (by omega)]
      omega

theorem digitValues_ne_nil (n : Nat) : digitValues n ≠ [] := by
  rcases Nat.lt_or_ge n 10 with hlt | hge
  · simp [digitValues_of_lt hlt]
  · simp [digitValues_of_ge hge]

/-- Only zero has a leading zero, and nothing behind it. -/
theorem eq_zero_of_digitValues_eq {n : Nat} {ds : List Nat} (h : digitValues n = 0 :: ds) :
    n = 0 ∧ ds = [] := by
  have hzero : n = 0 := by
    induction n using Nat.strongRecOn generalizing ds with
    | ind n ih =>
      rcases Nat.lt_or_ge n 10 with hlt | hge
      · rw [digitValues_of_lt hlt] at h
        exact (List.cons.inj h).1
      · rw [digitValues_of_ge hge] at h
        obtain hnil | ⟨left, hleft, -⟩ := List.append_eq_cons_iff.mp h
        · exact absurd hnil.1 (digitValues_ne_nil _)
        · have hprev := ih (n / 10) (by omega) hleft
          omega
  rw [hzero] at h
  exact ⟨hzero, (List.cons.inj h).2.symm⟩

/-- The digits of a number are a whole part, since only zero has a leading zero. -/
theorem wholeDigits?_toDigits (n : Nat) :
    wholeDigits? (Nat.toDigits 10 n) = some (digitValues n, []) := by
  have hzero : ∀ d ds, digitValues n ≠ 0 :: d :: ds := by
    intro d ds h
    cases (eq_zero_of_digitValues_eq h).2
  have hread : wholeDigits? (Nat.toDigits 10 n ++ []) = some (digitValues n, []) :=
    wholeDigits?_of_allDigits (allDigits_toDigits n) Nat.toDigits_ne_nil hzero nofun
  rwa [List.append_nil] at hread

/-- The significand grows with every digit. -/
theorem le_foldl_digits (s : Nat) (ds : List Nat) : s ≤ ds.foldl (fun n d => 10 * n + d) s := by
  induction ds generalizing s with
  | nil => exact Nat.le_refl s
  | cons d ds ih =>
    have h := ih (10 * s + d)
    rw [List.foldl_cons]
    omega

/-- Digits that denote a number within sixty-four bits are all taken. -/
theorem appendDigits_of_lt {s : Nat} {ds : List Nat}
    (h : ds.foldl (fun n d => 10 * n + d) s < Nat.pow 2 64) :
    appendDigits s ds = (ds.foldl (fun n d => 10 * n + d) s, ds.length) := by
  induction ds generalizing s with
  | nil => rfl
  | cons d ds ih =>
    have hfits : 10 * s + d < Nat.pow 2 64 := Nat.lt_of_le_of_lt (le_foldl_digits _ ds) h
    rw [appendDigits, if_pos hfits, ih h]
    rfl

/-- A number within sixty-four bits is taken digit by digit, and no digit is dropped. -/
theorem appendDigits_digitValues {n : Nat} (h : n < Nat.pow 2 64) :
    appendDigits 0 (digitValues n) = (n, (digitValues n).length) := by
  have hvalue : (digitValues n).foldl (fun n d => 10 * n + d) 0 = n := ofDigits_digitValues n
  rw [appendDigits_of_lt (by rwa [hvalue]), hvalue]

/-- A number of digits alone, after a sign or none. -/
def plainNumeral (negative : Bool) (n : Nat) : Numeral where
  negative
  whole := digitValues n
  fraction := []
  exponent := 0
  plain := true

@[simp] theorem unsigned?_toDigits (negative : Bool) (n : Nat) :
    unsigned? negative (Nat.toDigits 10 n) = some (plainNumeral negative n, []) := by
  rw [unsigned?, wholeDigits?_toDigits]
  rfl

/-- A number within sixty-four bits stays an integer. -/
theorem tree_plainNumeral {n : Nat} (h : n < Nat.pow 2 64) :
    (plainNumeral false n).tree = .int n := by
  have hint : (plainNumeral false n).int? = some (n : Int) := by
    simp [Numeral.int?, plainNumeral, appendDigits_digitValues h]
  rw [Numeral.tree, hint]

/-- Below zero there is room for one more, the least integer. -/
theorem tree_plainNumeral_neg {n : Nat} (hpos : 0 < n) (h : n ≤ Nat.pow 2 63) :
    (plainNumeral true n).tree = .int (-n) := by
  have hlt : n < Nat.pow 2 64 := Nat.lt_of_le_of_lt h (by decide)
  have hint : (plainNumeral true n).int? = some (-(n : Int)) := by
    simp [Numeral.int?, plainNumeral, appendDigits_digitValues hlt, hpos, h]
  rw [Numeral.tree, hint]

/-- The text of an integer is its sign and its digits. -/
theorem numeral?_int (n : Int) :
    numeral? (toString n).toList = some (plainNumeral (n < 0) n.natAbs, []) := by
  rcases n with n | n
  · have htext : (toString (Int.ofNat n)).toList = Nat.toDigits 10 n := by
      change (toString n).toList = _
      rw [Nat.toString_eq_ofList_toDigits, String.toList_ofList]
    rw [htext]
    exact numeral?_of_unsigned? (unsigned?_toDigits false n)
  · have htext : (toString (Int.negSucc n)).toList = '-' :: Nat.toDigits 10 (n + 1) := by
      change ("-" ++ toString (n + 1)).toList = _
      simp
    rw [htext, numeral?, unsigned?_toDigits, decide_eq_true (Int.negSucc_lt_zero n)]
    rfl

/-- **An integer of sixty-four bits, with a sign or without, is read back from its digits.** -/
theorem number?_int {n : Int} (hlow : -(Nat.pow 2 63 : Int) ≤ n) (hhigh : n < Nat.pow 2 64) :
    number? (toString n).toList = some (.int n, []) := by
  have htree : (plainNumeral (n < 0) n.natAbs).tree = .int n := by
    rcases n with n | n
    · exact tree_plainNumeral (Int.ofNat_lt.mp hhigh)
    · rw [decide_eq_true (Int.negSucc_lt_zero n)]
      refine tree_plainNumeral_neg n.succ_pos ?_
      rw [Int.negSucc_eq] at hlow
      omega
  rw [number?, numeral?_int, Option.map_some]
  dsimp only
  rw [htree]

/-! ## Doubles -/

end Json

namespace Double

/-- The double is what its own text is read as. A double is read with two roundings, so some finite
ones are not, and are missed by their last bit. -/
def isReadBack (x : Double) : Bool :=
  match Json.Reader.number? (Layout.json.text x).toList with
  | some (.float y, []) => x = y
  | _ => false

theorem isReadBack_iff {x : Double} :
    x.isReadBack = true ↔
      Json.Reader.number? (Layout.json.text x).toList = some (.float x, []) := by
  rw [isReadBack]
  split
  · next y h => simp [h, eq_comm]
  · next h =>
    simp only [Bool.false_eq_true, false_iff]
    intro hx
    exact h x hx

/-- The text of a double that is not finite is no number. -/
theorem isFinite_of_isReadBack {x : Double} (h : x.isReadBack = true) : x.isFinite = true := by
  by_contra hfinite
  rw [Bool.not_eq_true] at hfinite
  have htext : Layout.json.text x = "null" ∨ Layout.json.text x = "-null" := by
    rcases hsign : x.isNegative with _ | _ <;> simp [Layout.text, Layout.json, hfinite, hsign]
  rw [isReadBack_iff] at h
  rcases htext with htext | htext <;> rw [htext] at h <;> cases h

/-- `2^53 - 1` is read as another double from `9007199254740991.0`. -/
example : isReadBack ⟨0x433fffffffffffff⟩ = false := by decide +kernel

end Double

end RecordFilter
