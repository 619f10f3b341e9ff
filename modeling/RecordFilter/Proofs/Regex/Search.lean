import Mathlib.Data.Nat.Bitwise
import Mathlib.Logic.Function.Iterate
import RecordFilter.Regex.Search

/-!
# Proofs/Regex/Search — the search decides what an expression finds

A set of places is a number, and an expression moves it to another set of places. `Moves` says which
relation between places a function on such numbers follows; sequences, choices and rounds of moves
follow the relations that `Matches` builds, so that

* `moves_walk` — the walk of an expression leads from a set of places to those where its matches
  end;
* `isMatch_eq_true_iff` — the search succeeds exactly if the expression matches some part.

Places only advance, so a repetition needs no more rounds than there are places
(`Times.exists_le_sub`).
-/

namespace RecordFilter.Regex

/-! ## What one expression can do to a place -/

theorem Times.bounds {R : Nat → Nat → Prop} {n : Nat} (hR : ∀ i j, R i j → i ≤ j ∧ j ≤ n) :
    ∀ {k i j : Nat}, i ≤ n → Times R k i j → i ≤ j ∧ j ≤ n
  | 0, _, _, hi, h => ⟨le_of_eq h, h ▸ hi⟩
  | k + 1, _, _, _, ⟨m, hm, h⟩ => by
      have h1 := hR _ _ hm
      have h2 := Times.bounds hR h1.2 h
      exact ⟨h1.1.trans h2.1, h2.2⟩

/-- A match lies inside the text and does not end before it starts. -/
theorem Matches.bounds {t : List Char} :
    ∀ {r : Regex} {i j : Nat}, r.Matches t i j → i ≤ j ∧ j ≤ t.length
  | .empty, _, _, h => ⟨le_of_eq h.2, h.2 ▸ h.1⟩
  | .chars _, i, j, ⟨c, hc, _, hj⟩ => by
      have := (List.getElem?_eq_some_iff.mp hc).1
      omega
  | .look _, _, _, h => ⟨le_of_eq h.2.2, h.2.2 ▸ h.1⟩
  | .cat _ _, _, _, ⟨_, h1, h2⟩ => ⟨h1.bounds.1.trans h2.bounds.1, h2.bounds.2⟩
  | .alt _ _, _, _, .inl h => h.bounds
  | .alt _ _, _, _, .inr h => h.bounds
  | .rep _ _ _, _, _, ⟨hi, _, _, _, h⟩ => Times.bounds (fun _ _ h => h.bounds) hi h

/-- **Rounds that stay in place can be left out**, so as many rounds as places are enough. -/
theorem Times.exists_le_sub {R : Nat → Nat → Prop} (hR : ∀ i j, R i j → i ≤ j) :
    ∀ {k i j : Nat}, Times R k i j → ∃ m, m ≤ k ∧ m ≤ j - i ∧ Times R m i j
  | 0, i, j, h => ⟨0, le_rfl, Nat.zero_le _, h⟩
  | k + 1, i, j, ⟨l, hl, h⟩ => by
      obtain ⟨m, hmk, hmj, hm⟩ := Times.exists_le_sub hR h
      have hil := hR i l hl
      rcases eq_or_lt_of_le hil with rfl | hlt
      · exact ⟨m, Nat.le_succ_of_le hmk, hmj, hm⟩
      · rcases Nat.eq_zero_or_pos m with rfl | hpos
        · obtain rfl : l = j := hm
          exact ⟨1, by omega, by omega, l, hl, rfl⟩
        · exact ⟨m + 1, by omega, by omega, l, hl, hm⟩

/-- Repetitions add up. -/
theorem Times.trans {R : Nat → Nat → Prop} :
    ∀ {a b i j k : Nat}, Times R a i j → Times R b j k → Times R (a + b) i k
  | 0, b, i, j, k, h, hb => by
      obtain rfl : i = j := h
      rwa [Nat.zero_add]
  | a + 1, b, _, _, _, ⟨l, hl, h⟩, hb => by
      rw [Nat.succ_add]
      exact ⟨l, hl, h.trans hb⟩

/-- A number of repetitions may be split anywhere. -/
theorem Times.split {R : Nat → Nat → Prop} :
    ∀ {a b i k : Nat}, Times R (a + b) i k → ∃ j, Times R a i j ∧ Times R b j k
  | 0, b, i, _, h => ⟨i, rfl, by rwa [Nat.zero_add] at h⟩
  | a + 1, b, _, _, h => by
      rw [Nat.succ_add] at h
      obtain ⟨l, hl, h⟩ := h
      obtain ⟨j, hj, hb⟩ := Times.split h
      exact ⟨j, ⟨l, hl, hj⟩, hb⟩

/-- Rounds do not lead out of places that one round does not lead out of. -/
theorem Times.mem_of_closed {R : Nat → Nat → Prop} {P : Nat → Prop}
    (hP : ∀ i j, P i → R i j → P j) : ∀ {k i j : Nat}, P i → Times R k i j → P j
  | 0, _, _, hi, h => h ▸ hi
  | _ + 1, _, _, hi, ⟨l, hl, h⟩ => Times.mem_of_closed hP (hP _ l hi hl) h

namespace Walk

/-! ## Functions on sets of places -/

/-- No place of the set is beyond `n`. -/
def Within (n s : Nat) : Prop := ∀ i, s.testBit i = true → i ≤ n

/-- `f` leads from any set of places to the places that `R` leads to, all of them up to `n`. -/
structure Moves (n : Nat) (R : Nat → Nat → Prop) (f : Nat → Nat) : Prop where
  bounds : ∀ i j, R i j → i ≤ j ∧ j ≤ n
  testBit_iff : ∀ s, Within n s → ∀ j, (f s).testBit j = true ↔ ∃ i, s.testBit i = true ∧ R i j

variable {n : Nat} {R : Nat → Nat → Prop} {f : Nat → Nat}

theorem Moves.within (hf : Moves n R f) {s : Nat} (hs : Within n s) : Within n (f s) := by
  intro j hj
  obtain ⟨i, _, h⟩ := (hf.testBit_iff s hs j).mp hj
  exact (hf.bounds i j h).2

theorem Within.lor {s t : Nat} (hs : Within n s) (ht : Within n t) : Within n (s ||| t) := by
  intro i hi
  rw [Nat.testBit_or, Bool.or_eq_true] at hi
  exact hi.elim (hs i) (ht i)

/-- Stopping at a fixed set changes nothing. -/
theorem iterate_eq (f : Nat → Nat) : ∀ (k s : Nat), iterate f k s = f^[k] s
  | 0, _ => rfl
  | k + 1, s => by
      simp only [iterate, Function.iterate_succ_apply]
      split
      · next h => rw [h, Function.iterate_fixed h]
      · exact iterate_eq f k (f s)

/-- Walking a number of times is repeating what one walk does. -/
theorem Moves.iterate (hf : Moves n R f) (k : Nat) :
    ∀ s, Within n s → ∀ j, (Walk.iterate f k s).testBit j = true ↔
      ∃ i, s.testBit i = true ∧ Times R k i j := by
  simp only [iterate_eq]
  induction k with
  | zero =>
    exact fun s _ j => ⟨fun h => ⟨j, h, rfl⟩, fun ⟨i, h, hij⟩ => by rwa [← show i = j from hij]⟩
  | succ k ih =>
    intro s hs j
    rw [Function.iterate_succ_apply, ih (f s) (hf.within hs)]
    constructor
    · rintro ⟨l, hl, h⟩
      obtain ⟨i, hi, hil⟩ := (hf.testBit_iff s hs l).mp hl
      exact ⟨i, hi, l, hil, h⟩
    · rintro ⟨i, hi, l, hil, h⟩
      exact ⟨l, (hf.testBit_iff s hs l).mpr ⟨i, hi, hil⟩, h⟩

/-- What a set has more than another one that is part of it. -/
theorem testBit_lor_xor (s t i : Nat) : ((s ||| t) ^^^ s).testBit i = true ↔
    (s ||| t).testBit i = true ∧ s.testBit i = false := by
  rw [Nat.testBit_xor, Nat.testBit_or]
  cases s.testBit i <;> simp

/-- **Rounds from what was added last reach as much as rounds from everything seen**, as long as
whatever one round reaches from the rest has been seen. -/
theorem Moves.testBit_reach (hf : Moves n R f) :
    ∀ (k seen last : Nat), Within n seen → (∀ i, last.testBit i = true → seen.testBit i = true) →
      (∀ i j, seen.testBit i = true → R i j →
        seen.testBit j = true ∨ ∃ l, last.testBit l = true ∧ R l j) →
      ∀ j, (reach f k seen last).testBit j = true ↔
        ∃ m ≤ k, ∃ i, seen.testBit i = true ∧ Times R m i j
  | 0, seen, last, _, _, _, j => by
      simp only [reach, Nat.le_zero]
      exact ⟨fun h => ⟨0, rfl, j, h, rfl⟩,
        fun ⟨_, hm, i, hi, h⟩ => by subst hm; rwa [← show i = j from h]⟩
  | k + 1, seen, last, hs, hls, hrest, j => by
      have hl : Within n last := fun i hi => hs i (hls i hi)
      -- what one round adds, read as places
      have hall : ∀ i, (seen ||| f last).testBit i = true ↔
          seen.testBit i = true ∨ ∃ l, last.testBit l = true ∧ R l i := fun i => by
        rw [Nat.testBit_or, Bool.or_eq_true, hf.testBit_iff last hl]
      simp only [reach]
      split
      · next hfix =>
        have hclosed : ∀ i l, seen.testBit i = true → R i l → seen.testBit l = true :=
          fun i l hi hil => by
            have := (hall l).mpr (hrest i l hi hil)
            rwa [hfix] at this
        exact ⟨fun h => ⟨0, Nat.zero_le _, j, h, rfl⟩,
          fun ⟨m, _, i, hi, h⟩ => h.mem_of_closed (P := fun l => seen.testBit l = true) hclosed hi⟩
      · rw [Moves.testBit_reach hf k _ _ (hs.lor (hf.within hl))
          fun i hi => ((testBit_lor_xor _ _ i).mp hi).1]
        · constructor
          · rintro ⟨m, hm, i, hi, h⟩
            rcases (hall i).mp hi with hi | ⟨l, hll, hli⟩
            · exact ⟨m, by omega, i, hi, h⟩
            · exact ⟨m + 1, by omega, l, hls l hll, i, hli, h⟩
          · rintro ⟨m, hm, i, hi, h⟩
            cases m with
            | zero => exact ⟨0, Nat.zero_le _, i, (hall i).mpr (.inl hi), h⟩
            | succ m =>
              obtain ⟨l, hil, h⟩ := h
              exact ⟨m, by omega, l, (hall l).mpr (hrest i l hi hil), h⟩
        · intro i l hi hil
          by_cases hsi : seen.testBit i = true
          · exact .inl ((hall l).mpr (hrest i l hsi hil))
          · exact .inr ⟨i, (testBit_lor_xor _ _ i).mpr ⟨hi, by simpa using hsi⟩, hil⟩

/-- `lo` rounds and up to `extra` more. -/
theorem Moves.rounds (hf : Moves n R f) (lo extra : Nat) {s : Nat} (hs : Within n s) (j : Nat) :
    (reach f extra (Walk.iterate f lo s) (Walk.iterate f lo s)).testBit j = true ↔
      ∃ i, s.testBit i = true ∧ ∃ k, lo ≤ k ∧ k ≤ lo + extra ∧ Times R k i j := by
  have hstart := hf.iterate lo s hs
  have hw : Within n (Walk.iterate f lo s) := by
    intro i hi
    obtain ⟨l, hl, h⟩ := (hstart i).mp hi
    exact (h.bounds hf.bounds (hs l hl)).2
  rw [hf.testBit_reach extra _ _ hw (fun _ h => h) (fun i _ hi h => .inr ⟨i, hi, h⟩)]
  constructor
  · rintro ⟨m, hm, l, hl, h⟩
    obtain ⟨i, hi, hil⟩ := (hstart l).mp hl
    exact ⟨i, hi, lo + m, by omega, by omega, hil.trans h⟩
  · rintro ⟨i, hi, k, hlo, hk, h⟩
    obtain ⟨m, rfl⟩ := Nat.exists_eq_add_of_le hlo
    obtain ⟨l, hil, hlj⟩ := h.split
    exact ⟨m, by omega, l, (hstart l).mpr ⟨i, hi, hil⟩, hlj⟩

end Walk

/-! ## The places of a class and of an assertion -/

/-- A bit put in front moves the others up by one. -/
theorem testBit_bit (b : Bool) (m : Nat) (i : Nat) :
    (2 * m + if b then 1 else 0).testBit i = if i = 0 then b else m.testBit (i - 1) := by
  cases i with
  | zero => cases b <;> simp [Nat.testBit_zero]
  | succ i => cases b <;> simp [Nat.testBit_succ, Nat.mul_add_div]

@[simp] theorem Haystack.testBit_placesOf (cs : List Char) :
    ∀ (t : List Char) (i : Nat), (placesOf cs t).testBit i = true ↔ ∃ c, t[i]? = some c ∧ c ∈ cs
  | [], i => by simp [placesOf]
  | c :: t, i => by
      rw [placesOf, testBit_bit]
      cases i with
      | zero => simp
      | succ i => simpa using testBit_placesOf cs t i

/-- A class is laid over the text where its characters stand. -/
@[simp] theorem Haystack.testBit_placesIn (h : Haystack) (s : CharClass) (i : Nat) :
    (h.placesIn s).testBit i = true ↔ ∃ c, h.chars[i]? = some c ∧ s.contains c = true := by
  rw [placesIn, testBit_placesOf]
  refine exists_congr fun c => and_congr_right fun hc => ?_
  rw [List.mem_filter, and_iff_right (h.mem_alphabet c (List.mem_of_getElem? hc))]

@[simp] theorem Haystack.testBit_placesWhere (a : Assertion) :
    ∀ (before : Option Char) (t : List Char) (i : Nat),
      (placesWhere a before t).testBit i = true ↔
        i ≤ t.length ∧ a.holds (if i = 0 then before else t[i - 1]?) t[i]? = true
  | before, [], i => by
      cases i with
      | zero => cases h : a.holds before none <;> simp [placesWhere, h]
      | succ i =>
        have : (placesWhere a before []).testBit (i + 1) = false := by
          simp only [placesWhere]
          split <;> simp [Nat.testBit_succ]
        simp [this]
  | before, c :: t, i => by
      rw [placesWhere, testBit_bit]
      cases i with
      | zero => simp
      | succ i =>
        rw [if_neg (Nat.succ_ne_zero i), Nat.add_sub_cancel, testBit_placesWhere a (some c) t i]
        cases i <;> simp

/-! ## The search -/

/-- No repetition asks for more rounds than it allows. -/
def Ordered : Regex → Prop
  | cat r s => r.Ordered ∧ s.Ordered
  | alt r s => r.Ordered ∧ s.Ordered
  | rep r min max? => r.Ordered ∧ ∀ m, max? = some m → min ≤ m
  | _ => True

/-- The rounds that a walk takes are enough to find every match of a repetition. -/
theorem exists_rounds_iff {R : Nat → Nat → Prop} {n lo extra : Nat} {max? : Option Nat}
    (hR : ∀ i j, R i j → i ≤ j ∧ j ≤ n) (hsome : ∀ m, max? = some m → lo + extra = m)
    (hnone : max? = none → n ≤ extra) {i j : Nat} (hi : i ≤ n) :
    (∃ k, lo ≤ k ∧ k ≤ lo + extra ∧ Times R k i j) ↔
      ∃ k, lo ≤ k ∧ (∀ m, max? = some m → k ≤ m) ∧ Times R k i j := by
  constructor
  · rintro ⟨k, hk, hke, h⟩
    exact ⟨k, hk, fun m hm => (hsome m hm) ▸ hke, h⟩
  · rintro ⟨k, hk, hmax, h⟩
    cases max? with
    | some m => exact ⟨k, hk, (hsome m rfl).symm ▸ hmax m rfl, h⟩
    | none =>
      obtain ⟨m, rfl⟩ := Nat.exists_eq_add_of_le hk
      obtain ⟨l, hil, hlj⟩ := h.split
      obtain ⟨m', _, hm', h'⟩ := hlj.exists_le_sub fun i j h => (hR i j h).1
      have hl := hil.bounds hR hi
      have hj := hlj.bounds hR hl.2
      have := hnone rfl
      exact ⟨lo + m', by omega, by omega, hil.trans h'⟩

/-- **The walk of an expression leads to the places where its matches end.** -/
theorem moves_walk (h : Haystack) :
    ∀ {r : Regex}, r.Ordered → Walk.Moves h.chars.length (r.Matches h.chars) (walk h r).ends
  | .empty, _ => ⟨fun _ _ => Matches.bounds, fun s hs j =>
      ⟨fun hj => ⟨j, hj, hs j hj, rfl⟩, fun ⟨_, hi, _, hij⟩ => hij ▸ hi⟩⟩
  | .chars c, _ => ⟨fun _ _ => Matches.bounds, fun s hs j => by
      simp only [walk, Walk.ends, Nat.testBit_shiftLeft, Nat.testBit_and, Bool.and_eq_true,
        decide_eq_true_eq, h.testBit_placesIn]
      constructor
      · rintro ⟨hj, hs, d, hd, hc⟩
        exact ⟨j - 1, hs, d, hd, hc, by omega⟩
      · rintro ⟨i, hi, d, hd, hc, rfl⟩
        exact ⟨by omega, by simpa using hi, d, by simpa using hd, hc⟩⟩
  | .look a, _ => ⟨fun _ _ => Matches.bounds, fun s hs j => by
      simp only [walk, Walk.ends, Nat.testBit_and, Bool.and_eq_true, Haystack.testBit_placesWhere]
      constructor
      · rintro ⟨hj, hl, ha⟩
        exact ⟨j, hj, hl, ha, rfl⟩
      · rintro ⟨i, hi, hl, ha, rfl⟩
        exact ⟨hi, hl, ha⟩⟩
  | .cat r s, ho => ⟨fun _ _ => Matches.bounds, fun x hx j => by
      have hr := moves_walk h ho.1
      have hs := moves_walk h ho.2
      simp only [walk, Walk.ends]
      rw [hs.testBit_iff _ (hr.within hx)]
      constructor
      · rintro ⟨k, hk, hkj⟩
        obtain ⟨i, hi, hik⟩ := (hr.testBit_iff x hx k).mp hk
        exact ⟨i, hi, k, hik, hkj⟩
      · rintro ⟨i, hi, k, hik, hkj⟩
        exact ⟨k, (hr.testBit_iff x hx k).mpr ⟨i, hi, hik⟩, hkj⟩⟩
  | .alt r s, ho => ⟨fun _ _ => Matches.bounds, fun x hx j => by
      simp only [walk, Walk.ends, Nat.testBit_or, Bool.or_eq_true,
        (moves_walk h ho.1).testBit_iff x hx, (moves_walk h ho.2).testBit_iff x hx, Matches,
        and_or_left, exists_or]⟩
  | .rep r lo max?, ho => ⟨fun _ _ => Matches.bounds, fun x hx j => by
      have hr := moves_walk h ho.1
      simp only [walk, Walk.ends]
      rw [hr.rounds lo _ hx]
      refine exists_congr fun i => and_congr_right fun hi => ?_
      rw [exists_rounds_iff hr.bounds _ _ (hx i hi)]
      · exact (and_iff_right (hx i hi)).symm
      · rintro m rfl
        exact Nat.add_sub_of_le (ho.2 m rfl)
      · rintro rfl
        exact Nat.le_succ _⟩

/-- **The search succeeds exactly if the expression matches some part of the text.** -/
theorem isMatch_eq_true_iff {r : Regex} (ho : r.Ordered) (text : String) :
    r.isMatch text = true ↔ r.Finds text.toList := by
  let h := Haystack.ofString text
  have hall : ∀ i, (Nat.pow 2 (h.chars.length + 1) - 1).testBit i = true ↔ i ≤ h.chars.length :=
    fun i => by rw [Nat.pow_eq, Nat.testBit_two_pow_sub_one, decide_eq_true_eq, Nat.lt_succ_iff]
  have hm := (moves_walk h ho).testBit_iff _ fun i => (hall i).mp
  have hmatch : r.isMatch text =
      decide ((walk h r).ends (Nat.pow 2 (h.chars.length + 1) - 1) ≠ 0) := rfl
  rw [hmatch, decide_eq_true_eq]
  constructor
  · intro hne
    obtain ⟨j, hj⟩ := Nat.exists_testBit_of_ne_zero hne
    obtain ⟨i, _, hij⟩ := (hm j).mp hj
    exact ⟨i, j, hij⟩
  · rintro ⟨i, j, hij⟩ hzero
    have hj := (hm j).mpr ⟨i, (hall i).mpr (hij.bounds.1.trans hij.bounds.2), hij⟩
    rw [hzero, Nat.zero_testBit] at hj
    exact Bool.false_ne_true hj

end RecordFilter.Regex
