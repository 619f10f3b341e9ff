import RecordFilter.Proofs.Json.Numbers
import RecordFilter.Proofs.Number.Shortest

/-!
# Proofs/Json/Doubles — the text of a double tells which double it is of

Whatever way a decimal is laid out, with a point between its digits, with zeros around them or with
an exponent, it is read as a numeral of the same size (`readsAs_decimal`). A double is written as
its shortest decimal, next to its sign (`numeral?_text`). The numeral is what counts here, and not
the double that a reader makes of it: that one may be another (`Double.isReadBack`).
-/

namespace RecordFilter

namespace Json

open Reader

variable {cs rest whole fraction tail : List Char} {negative : Bool}

/-! ## Digits -/

theorem allDigits_replicate (k : Nat) : AllDigits (List.replicate k '0') := by
  intro c hc
  rw [List.eq_of_mem_replicate hc]
  rfl

theorem AllDigits.append {a b : List Char} (ha : AllDigits a) (hb : AllDigits b) :
    AllDigits (a ++ b) := fun c hc => (List.mem_append.mp hc).elim (ha c) (hb c)

/-- Digits put together are those in front, moved up by the number of those behind, and the
latter. -/
theorem ofDigits_append (a b : List Nat) : Text.ofDigits 10 (a ++ b) =
    Text.ofDigits 10 a * 10 ^ b.length + Text.ofDigits 10 b := by
  induction b using List.reverseRecOn with
  | nil => simp [Text.ofDigits]
  | append_singleton b d ih =>
    rw [← List.append_assoc, ofDigits_append_singleton, ih, ofDigits_append_singleton,
      List.length_append, List.length_singleton, Nat.pow_succ]
    ring

/-- Digits keep their values beside one another. -/
@[simp] theorem values_append (a b : List Char) : values (a ++ b) = values a ++ values b :=
  List.filterMap_append

/-- Zeros alone denote zero. -/
@[simp]
theorem ofDigits_zeros (k : Nat) : Text.ofDigits 10 (values (List.replicate k '0')) = 0 := by
  induction k with
  | zero => rfl
  | succ k ih =>
    rw [List.replicate_succ', values_append, ofDigits_append, ih]
    rfl

/-- Zeros behind digits multiply, which is how large whole numbers are filled up. -/
theorem ofDigits_append_zeros (cs : List Char) (k : Nat) :
    Text.ofDigits 10 (values (cs ++ List.replicate k '0')) =
      Text.ofDigits 10 (values cs) * 10 ^ k := by
  rw [values_append, ofDigits_append, ofDigits_zeros, length_values (allDigits_replicate k),
    List.length_replicate, Nat.add_zero]

/-- Zeros in front make no difference, which is how small numbers are filled up. -/
theorem ofDigits_zeros_append (k : Nat) (cs : List Char) :
    Text.ofDigits 10 (values (List.replicate k '0' ++ cs)) = Text.ofDigits 10 (values cs) := by
  rw [values_append, ofDigits_append, ofDigits_zeros, Nat.zero_mul, Nat.zero_add]

/-! ## A number by its parts -/

/-- The digits behind a point; without digits there is none. -/
def pointed : List Char → List Char
  | [] => []
  | cs => '.' :: cs

theorem pointed_of_ne_nil (h : cs ≠ []) : pointed cs = '.' :: cs := by
  rcases cs with _ | ⟨c, cs⟩
  · exact absurd rfl h
  · rfl

/-- What may follow the digits of a number is nothing, or an exponent. -/
def EndsDigits (tail : List Char) : Prop := ∀ c ∈ tail.head?, c = 'e'

/-- Behind the whole part there is a point, an exponent or nothing, but no digit. -/
theorem EndsDigits.head_pointed (h : EndsDigits tail) (fraction : List Char) :
    ∀ c ∈ (pointed fraction ++ tail).head?, c.isDigit = false := by
  rcases fraction with _ | ⟨d, fraction⟩
  · intro c hc
    rw [h c hc]
    rfl
  · rintro _ ⟨⟩
    rfl

/-- A run of digits is read up to what is no digit. -/
theorem someDigits?_of_allDigits (h : AllDigits cs) (hne : cs ≠ [])
    (hrest : ∀ c ∈ rest.head?, c.isDigit = false) :
    someDigits? (cs ++ rest) = some (values cs, rest) := by
  have hlength := length_values h
  rw [someDigits?, takeDigits_allDigits h hrest]
  rcases hvalues : values cs with _ | ⟨d, ds⟩
  · rw [hvalues] at hlength
    exact absurd (List.length_eq_zero_iff.mp hlength.symm) hne
  · rfl

/-- A fraction is read with its point, and none is read where there is none. -/
theorem fraction?_pointed (h : AllDigits fraction) (htail : EndsDigits tail) :
    fraction? (pointed fraction ++ tail) = some (values fraction, tail) := by
  rcases fraction with _ | ⟨d, fraction⟩
  · rcases tail with _ | ⟨c, tail⟩
    · rfl
    · obtain rfl := htail c rfl
      rfl
  · exact someDigits?_of_allDigits h (List.cons_ne_nil _ _) (htail.head_pointed [])

/-- A signed exponent is read as its number. -/
theorem exponent?_letter (e : Int) :
    exponent? ('e' :: (if e < 0 then ['-'] else ['+']) ++ Nat.toDigits 10 e.natAbs) =
      some (some e, []) := by
  have hdigits : someDigits? (Nat.toDigits 10 e.natAbs ++ []) = some (digitValues e.natAbs, []) :=
    someDigits?_of_allDigits (allDigits_toDigits _) Nat.toDigits_ne_nil nofun
  rw [List.append_nil] at hdigits
  by_cases he : e < 0
  · simp [exponent?, he, hdigits, abs_of_neg he]
  · simp [exponent?, he, hdigits, abs_of_nonneg (not_lt.mp he)]

/-- **A number is read by its parts.** -/
theorem unsigned?_of_parts (negative : Bool) {e? : Option Int} (hwhole : AllDigits whole)
    (hne : whole ≠ []) (hzero : ∀ d ds, values whole ≠ 0 :: d :: ds)
    (hfraction : AllDigits fraction) (htail : EndsDigits tail)
    (hexponent : exponent? tail = some (e?, [])) :
    unsigned? negative (whole ++ (pointed fraction ++ tail)) = some (
      { negative, whole := values whole, fraction := values fraction, exponent := e?.getD 0
        plain := (values fraction).isEmpty && e?.isNone }, []) := by
  rw [unsigned?, wholeDigits?_of_allDigits hwhole hne hzero (htail.head_pointed fraction)]
  simp only [Option.bind_eq_bind, Option.bind_some, fraction?_pointed hfraction htail, hexponent]
  rfl

/-- The size of the number that a numeral is. -/
def Numeral.size (n : Numeral) : ℚ :=
  Text.ofDigits 10 (n.whole ++ n.fraction) * 10 ^ (n.exponent - n.fraction.length)

/-- The text after a sign is read as a number of some size that has a point or an exponent. -/
def ReadsAs (negative : Bool) (size : ℚ) (cs : List Char) : Prop :=
  ∃ n : Numeral, unsigned? negative cs = some (n, []) ∧ n.negative = negative ∧ n.plain = false ∧
    n.size = size

/-- **A numeral is read as the number that its parts denote.** All layouts of a decimal are cases of
this. -/
theorem readsAs_of_parts {size : ℚ} {e? : Option Int} (hwhole : AllDigits whole)
    (hne : whole ≠ []) (hzero : ∀ d ds, values whole ≠ 0 :: d :: ds)
    (hfraction : AllDigits fraction) (htail : EndsDigits tail)
    (hexponent : exponent? tail = some (e?, []))
    (hplain : fraction ≠ [] ∨ e?.isSome)
    (hsize : Text.ofDigits 10 (values (whole ++ fraction)) *
      (10 : ℚ) ^ (e?.getD 0 - fraction.length) = size) :
    ReadsAs negative size (whole ++ (pointed fraction ++ tail)) := by
  have hlength := length_values hfraction
  refine ⟨_, unsigned?_of_parts negative hwhole hne hzero hfraction htail hexponent, rfl, ?_, ?_⟩
  · rcases hplain with h | h
    · rw [List.isEmpty_eq_false_iff.mpr, Bool.false_and]
      exact fun hnil => h (List.length_eq_zero_iff.mp (hlength ▸ congrArg List.length hnil))
    · rw [Option.isNone_eq_false_iff.mpr h, Bool.and_false]
  · rw [← hsize, Numeral.size]
    dsimp only
    rw [hlength, values_append]

/-! ## The layout of a decimal -/

variable {d : Decimal}

@[simp] theorem ofDigits_values_digitChars (d : Decimal) :
    Text.ofDigits 10 (values d.digitChars) = d.digits := ofDigits_digitValues d.digits

theorem digitChars_ne_nil (d : Decimal) : d.digitChars ≠ [] := Nat.toDigits_ne_nil

theorem allDigits_digitChars (d : Decimal) : AllDigits d.digitChars := allDigits_toDigits d.digits

/-- Zeros up to the point. -/
theorem readsAs_whole {k : Nat} (hexponent : d.exponent = k) (h : d.digits = 0 → k = 0) :
    ReadsAs negative d.toRat (d.digitChars ++ List.replicate k '0' ++ ['.', '0']) := by
  change ReadsAs negative _ (d.digitChars ++ List.replicate k '0' ++ (pointed ['0'] ++ []))
  refine readsAs_of_parts ((allDigits_digitChars d).append (allDigits_replicate k))
    (by simp [digitChars_ne_nil]) ?_ (allDigits_replicate 1) nofun rfl
    (.inl (List.cons_ne_nil _ _)) ?_
  · intro a ds hvalues
    rw [values_append] at hvalues
    obtain ⟨hnil, -⟩ | ⟨ds', hdigits, hrest⟩ := List.append_eq_cons_iff.mp hvalues
    · exact digitValues_ne_nil d.digits hnil
    · obtain ⟨hzero, rfl⟩ := eq_zero_of_digitValues_eq hdigits
      rw [h hzero] at hrest
      cases hrest
  · have hzeros : List.replicate k '0' ++ ['0'] = List.replicate (k + 1) '0' :=
      List.replicate_succ'.symm
    rw [List.append_assoc, hzeros, ofDigits_append_zeros, ofDigits_values_digitChars,
      Decimal.toRat, hexponent]
    simp [pow_succ, mul_assoc]

/-- The point between the digits. -/
theorem readsAs_point_inside {m : Nat} (hm : 0 < m) (hlength : m < d.digitChars.length)
    (hexponent : d.exponent = -((d.digitChars.length - m : Nat) : Int)) :
    ReadsAs negative d.toRat (d.digitChars.take m ++ '.' :: d.digitChars.drop m) := by
  have hdrop : (d.digitChars.drop m).length = d.digitChars.length - m := List.length_drop
  have hpointed : '.' :: d.digitChars.drop m = pointed (d.digitChars.drop m) ++ [] := by
    rw [pointed_of_ne_nil, List.append_nil]
    exact List.ne_nil_of_length_pos (by omega)
  rw [hpointed]
  refine readsAs_of_parts (fun c hc => allDigits_digitChars d c (List.mem_of_mem_take hc)) ?_ ?_
    (fun c hc => allDigits_digitChars d c (List.mem_of_mem_drop hc)) nofun rfl (.inl ?_) ?_
  · exact List.ne_nil_of_length_pos (by rw [List.length_take]; omega)
  · intro a ds hvalues
    have hall := values_append (d.digitChars.take m) (d.digitChars.drop m)
    rw [List.take_append_drop, hvalues] at hall
    cases (eq_zero_of_digitValues_eq hall).2
  · exact List.ne_nil_of_length_pos (by omega)
  · rw [List.take_append_drop, ofDigits_values_digitChars, Decimal.toRat, hexponent, hdrop,
      Option.getD_none, zero_sub]

/-- Zeros between the point and the digits. -/
theorem readsAs_point_before {k : Nat}
    (hexponent : d.exponent = -((k + d.digitChars.length : Nat) : Int)) :
    ReadsAs negative d.toRat ('0' :: '.' :: List.replicate k '0' ++ d.digitChars) := by
  have hne : List.replicate k '0' ++ d.digitChars ≠ [] := by simp [digitChars_ne_nil]
  have hpointed : '0' :: '.' :: List.replicate k '0' ++ d.digitChars =
      ['0'] ++ (pointed (List.replicate k '0' ++ d.digitChars) ++ []) := by
    rw [pointed_of_ne_nil hne]
    simp
  rw [hpointed]
  refine readsAs_of_parts (allDigits_replicate 1) (List.cons_ne_nil _ _) nofun
    ((allDigits_replicate k).append (allDigits_digitChars d)) nofun rfl (.inl hne) ?_
  have hzeros : ['0'] ++ (List.replicate k '0' ++ d.digitChars) =
      List.replicate (k + 1) '0' ++ d.digitChars := rfl
  rw [hzeros, ofDigits_zeros_append, ofDigits_values_digitChars, Decimal.toRat, hexponent,
    List.length_append, List.length_replicate, Option.getD_none, zero_sub]

/-- Without exponent, a decimal is read as the number it is. -/
theorem readsAs_positional (h : d.digits = 0 → d.exponent ≤ 0) :
    ReadsAs negative d.toRat (d.positional true) := by
  rw [Decimal.positional]
  dsimp only
  split
  · exact readsAs_whole (by omega) (by omega)
  · split
    · exact readsAs_point_inside (by omega) (by omega) (by omega)
    · exact readsAs_point_before (by omega)

/-- One digit before the point, and an exponent. -/
theorem readsAs_scientific : ReadsAs negative d.toRat (d.scientific true) := by
  obtain ⟨c, cs, hchars⟩ := List.exists_cons_of_ne_nil (digitChars_ne_nil d)
  have hdigits : AllDigits (c :: cs) := hchars ▸ allDigits_digitChars d
  have htext : d.scientific true = [c] ++ (pointed cs ++
      ('e' :: (if d.leadingExponent < 0 then ['-'] else ['+']) ++
        Nat.toDigits 10 d.leadingExponent.natAbs)) := by
    rw [Decimal.scientific, hchars]
    rcases cs with _ | ⟨c', cs⟩ <;> simp [pointed]
  have hfirst : AllDigits [c] := fun a ha => hdigits a (List.mem_of_mem_take (i := 1) ha)
  have hexponent : d.leadingExponent - cs.length = d.exponent := by
    rw [Decimal.leadingExponent, hchars, List.length_cons]
    omega
  rw [htext]
  refine readsAs_of_parts hfirst (List.cons_ne_nil _ _) ?_
    (fun a ha => hdigits a (List.mem_cons_of_mem c ha)) ?_ (exponent?_letter _) (.inr rfl) ?_
  · intro a ds hvalues
    have hlength := length_values hfirst
    rw [hvalues] at hlength
    cases hlength
  · rintro _ ⟨⟩
    rfl
  · rw [List.singleton_append, ← hchars, ofDigits_values_digitChars, Option.getD_some, hexponent,
      Decimal.toRat]

/-- **A decimal is read as the number that it is**, whichever layout its exponent asks for. -/
theorem readsAs_decimal (h : d.digits = 0 → d.exponent ≤ 0) :
    ReadsAs negative d.toRat (Layout.json.decimal d) := by
  have hjson : Layout.json.positional = some (-5, 15) := rfl
  rw [Layout.decimal, hjson]
  dsimp only
  split
  · exact readsAs_positional h
  · exact readsAs_scientific

/-! ## Doubles -/

/-- A finite double is written as its sign and the decimal of its size. -/
theorem toList_text_json {x : Double} (h : x.isFinite = true) : (Layout.json.text x).toList =
    (if x.isNegative then ['-'] else []) ++ Layout.json.decimal (x.decimal .even) := by
  have hsign : (if x.isNegative then "-" else "").toList = if x.isNegative then ['-'] else [] := by
    split <;> rfl
  have hfinite : (!x.isFinite) ≠ true := by simp [h]
  have hnan : x.isNaN ≠ true := by simp [Double.isNaN_of_isFinite h]
  have htie : Layout.json.tie = .even := rfl
  have hzero : Layout.json.decimal ⟨0, 0⟩ = Decimal.positional Layout.json.pointZero ⟨0, 0⟩ := rfl
  rw [Layout.text, if_neg hnan, if_neg hfinite, Double.decimal, ← hsign, htie]
  by_cases hmagnitude : x.magnitude = 0
  · rw [if_pos hmagnitude, if_pos hmagnitude, String.toList_append, String.toList_ofList, hzero]
  · rw [if_neg hmagnitude, if_neg hmagnitude, String.toList_append, String.toList_ofList]

/-- **The text of a finite double is read as its sign and its decimal.** -/
theorem numeral?_text {x : Double} (h : x.isFinite = true) : ∃ n : Numeral,
    numeral? (Layout.json.text x).toList = some (n, []) ∧ n.negative = x.isNegative ∧
      n.plain = false ∧ n.size = (x.decimal .even).toRat := by
  have hzero : (x.decimal .even).digits = 0 → (x.decimal .even).exponent ≤ 0 := fun hdigits => by
    rw [Double.decimal_of_digits_eq_zero hdigits]
  rw [toList_text_json h]
  rcases x.isNegative with _ | _
  · obtain ⟨n, hn, hrest⟩ := readsAs_decimal hzero
    exact ⟨n, numeral?_of_unsigned? hn, hrest⟩
  · exact readsAs_decimal hzero

end Json

namespace Double

variable {x y : Double}

/-- **Different finite doubles have different texts.** -/
theorem eq_of_text_eq (hx : x.isFinite = true) (hy : y.isFinite = true)
    (h : Layout.json.text x = Layout.json.text y) : x = y := by
  obtain ⟨m, hm, hmsign, -, hmsize⟩ := Json.numeral?_text hx
  obtain ⟨n, hn, hnsign, -, hnsize⟩ := Json.numeral?_text hy
  rw [h, hn] at hm
  obtain rfl := (Prod.mk.inj (Option.some.inj hm)).1
  exact eq_of_decimal_eq (hmsign.symm.trans hnsign) (hmsize.symm.trans hnsize)

end Double

end RecordFilter
