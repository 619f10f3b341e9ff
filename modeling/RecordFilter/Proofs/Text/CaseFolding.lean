import Mathlib.Logic.Basic
import RecordFilter.Text.CaseFolding

/-!
# Proofs/Text/CaseFolding — characters that differ at most in case

A case map is **settled** if its runs ascend, stay among the code points of characters and move
nothing onto a code point that moves again. Then a character folds in one step, and the characters
listed as variants of `c` are exactly those that fold to the same character
(`mem_caseVariants_iff`).
-/

namespace RecordFilter.Text

namespace CaseRun

/-- The code points from `lo` to `hi` are all code points of characters. -/
def Scalar (lo hi : Int) : Prop := 0 ≤ lo ∧ (hi < 0xD800 ∨ 0xDFFF < lo ∧ hi < 0x110000)

instance (lo hi : Int) : Decidable (Scalar lo hi) := inferInstanceAs (Decidable (_ ∧ _))

/-- The run holds code points of characters only, before and after they move. -/
def Sound (r : CaseRun) : Prop :=
  Scalar r.first r.last ∧ Scalar (r.first + r.shift) (r.last + r.shift)

instance (r : CaseRun) : Decidable r.Sound := inferInstanceAs (Decidable (_ ∧ _))

/-- The runs start from `n` or later, are not empty and do not overlap. -/
def ascends (n : Nat) : List CaseRun → Bool
  | [] => true
  | r :: rest => decide (n ≤ r.first) && decide (r.first ≤ r.last) && ascends (r.last + 1) rest

/-- No run holds a code point from `lo` to `hi`, taken in steps of `step`: each lies beside the run
or between its steps. -/
def misses (lo hi step : Nat) : List CaseRun → Bool
  | [] => true
  | s :: rest =>
    if s.last < lo then misses lo hi step rest
    else decide (hi < s.first) ||
      (s.step == 2 && (step == 2 || lo == hi) && (lo + s.first) % 2 == 1 && misses lo hi step rest)

variable {r : CaseRun} {n : Nat}

/-- What lies between two bounds of characters is a character. -/
theorem isValidChar_of_scalar {lo hi : Int} (h : Scalar lo hi) (hlo : lo ≤ n) (hhi : n ≤ hi) :
    n.isValidChar := by
  unfold Scalar at h
  unfold Nat.isValidChar
  omega

theorem Sound.isValidChar (hr : r.Sound) (hn : r.Holds n) : n.isValidChar :=
  isValidChar_of_scalar hr.1 (by have := hn.1; omega) (by have := hn.2.1; omega)

/-- In a sound run the shift is exact: nothing is cut off below zero. -/
theorem Sound.move_eq (hr : r.Sound) (hn : r.first ≤ n) : (r.move n : Int) = n + r.shift := by
  have := hr.2.1
  unfold move
  omega

/-- A sound run moves characters to characters. -/
theorem Sound.isValidChar_move (hr : r.Sound) (hn : r.Holds n) : (r.move n).isValidChar := by
  have hm := hr.move_eq hn.1
  exact isValidChar_of_scalar hr.2 (by have := hn.1; omega) (by have := hn.2.1; omega)

/-- **A code point comes from `m` exactly if the run holds `m` and moves it there.** -/
theorem Sound.source?_eq_some_iff (hr : r.Sound) {m : Nat} :
    r.source? n = some m ↔ r.Holds m ∧ r.move m = n := by
  simp only [source?]
  constructor
  · intro h
    split at h
    · next hc =>
      obtain rfl := Option.some.inj h
      exact hc
    · exact absurd h (by simp)
  · rintro ⟨hm, rfl⟩
    have hback : ((r.move m : Int) - r.shift).toNat = m := by
      have := hr.move_eq hm.1
      omega
    simp only [hback, hm, true_and, if_true]

/-- What ascending runs say of the first one and of the rest. -/
theorem ascends_cons {rest : List CaseRun} (h : ascends n (r :: rest) = true) :
    n ≤ r.first ∧ r.first ≤ r.last ∧ ascends (r.last + 1) rest = true := by
  simpa [ascends, and_assoc] using h

/-- Runs that ascend from `n` on hold nothing before it. -/
theorem le_first_of_ascends : ∀ {runs : List CaseRun} {n : Nat}, ascends n runs = true →
    ∀ r ∈ runs, n ≤ r.first
  | q :: runs, n, h, r, hr => by
      obtain ⟨hn, hq, h⟩ := ascends_cons h
      rcases List.mem_cons.mp hr with rfl | hr
      · exact hn
      · have := le_first_of_ascends h r hr
        omega

/-- **The check on runs is right**: what it passes is held by no run, so nothing moves twice. -/
theorem not_holds_of_misses {lo hi step m : Nat} (hlo : lo ≤ m) (hhi : m ≤ hi)
    (hstep : (m - lo) % step = 0) : ∀ {runs : List CaseRun} {n : Nat}, ascends n runs = true →
      misses lo hi step runs = true → ∀ s ∈ runs, ¬ s.Holds m
  | q :: runs, n, ha, h, s, hs => by
      obtain ⟨_, hq, ha⟩ := ascends_cons ha
      rw [misses] at h
      rintro ⟨hsf, hsl, hss⟩
      have hrest : s ∈ runs → misses lo hi step runs = true → False := fun hs h =>
        not_holds_of_misses hlo hhi hstep ha h s hs ⟨hsf, hsl, hss⟩
      split at h
      · rcases List.mem_cons.mp hs with rfl | hs
        · omega
        · exact hrest hs h
      · simp only [Bool.or_eq_true, Bool.and_eq_true, decide_eq_true_eq, beq_iff_eq] at h
        rcases h with h | ⟨⟨⟨hq2, hr2⟩, hodd⟩, h⟩
        · rcases List.mem_cons.mp hs with rfl | hs
          · omega
          · have := le_first_of_ascends ha s hs
            omega
        · rcases List.mem_cons.mp hs with rfl | hs
          · rw [hq2] at hss
            rcases hr2 with rfl | rfl <;> omega
          · exact hrest hs h

end CaseRun

namespace CaseMap

/-- Runs ascend, are sound, and move nothing twice. -/
structure Settled (m : CaseMap) : Prop where
  ascends : CaseRun.ascends 0 m.runs = true
  sound : ∀ r ∈ m.runs, r.Sound
  misses : ∀ r ∈ m.runs, CaseRun.misses (r.move r.first) (r.move r.last) r.step m.runs = true

/-- A code point that a run holds is moved by that run, whichever stand before it. -/
theorem movedBy_of_holds : ∀ {runs : List CaseRun} {r : CaseRun} {b n : Nat},
    CaseRun.ascends b runs = true → r ∈ runs → r.Holds n → movedBy runs n = r.move n
  | q :: runs, r, b, n, ha, hr, hn => by
      obtain ⟨_, hq, ha⟩ := CaseRun.ascends_cons ha
      rcases List.mem_cons.mp hr with rfl | hr
      · rw [movedBy, if_neg (Nat.not_lt.mpr hn.1), if_pos hn]
      · have hlt := CaseRun.le_first_of_ascends ha r hr
        have hle := hn.1
        have hqn : ¬ q.Holds n := fun h => by
          have := h.2.1
          omega
        rw [movedBy, if_neg (by omega), if_neg hqn]
        exact movedBy_of_holds ha hr hn

/-- A code point in no run stays. -/
theorem movedBy_of_not_holds : ∀ {runs : List CaseRun} {n : Nat}, (∀ r ∈ runs, ¬ r.Holds n) →
    movedBy runs n = n
  | [], _, _ => rfl
  | q :: runs, n, h => by
      rw [movedBy, if_neg (h q (by simp)),
        movedBy_of_not_holds fun r hr => h r (List.mem_cons_of_mem _ hr), ite_self]

variable {m : CaseMap} {c d : Char}

theorem toNat_ofNat {n : Nat} (h : n.isValidChar) : (Char.ofNat n).toNat = n := by
  rw [Char.ofNat, dif_pos h]
  rfl

theorem toNat_apply_of_holds (hm : m.Settled) {r : CaseRun} (hr : r ∈ m.runs)
    (hc : r.Holds c.toNat) : (m.apply c).toNat = r.move c.toNat := by
  rw [apply, movedBy_of_holds hm.ascends hr hc,
    toNat_ofNat ((hm.sound r hr).isValidChar_move hc)]

theorem apply_of_not_holds (h : ∀ r ∈ m.runs, ¬ r.Holds c.toNat) : m.apply c = c := by
  rw [apply, movedBy_of_not_holds h, Char.ofNat_toNat]

/-- No run holds what another one has moved. -/
theorem not_holds_move (hm : m.Settled) {r s : CaseRun} (hr : r ∈ m.runs) (hs : s ∈ m.runs)
    {n : Nat} (hn : r.Holds n) : ¬ s.Holds (r.move n) := by
  have hsound := hm.sound r hr
  obtain ⟨hlo, hhi, hstep⟩ := hn
  have hfirst := hsound.move_eq (Nat.le_refl r.first)
  have hlast := hsound.move_eq (Nat.le_trans hlo hhi)
  have hmid := hsound.move_eq hlo
  refine CaseRun.not_holds_of_misses (by omega) (by omega) ?_ hm.ascends (hm.misses r hr) s hs
  rwa [show r.move n - r.move r.first = n - r.first by omega]

/-- **A settled map is done in one step.** -/
theorem apply_apply (hm : m.Settled) (c : Char) : m.apply (m.apply c) = m.apply c := by
  by_cases h : ∃ r ∈ m.runs, r.Holds c.toNat
  · obtain ⟨r, hr, hc⟩ := h
    refine apply_of_not_holds fun s hs => ?_
    rw [toNat_apply_of_holds hm hr hc]
    exact not_holds_move hm hr hs hc
  · have hc : m.apply c = c := apply_of_not_holds fun r hr hrc => h ⟨r, hr, hrc⟩
    rw [hc, hc]

/-- The sources of `d` are the characters that some run moves to it. -/
theorem mem_sources_iff (hm : m.Settled) :
    c ∈ m.sources d ↔ ∃ r ∈ m.runs, r.Holds c.toNat ∧ r.move c.toNat = d.toNat := by
  rw [sources, List.mem_filterMap]
  refine exists_congr fun r => and_congr_right fun hr => ?_
  rw [Option.map_eq_some_iff]
  have hsound := hm.sound r hr
  constructor
  · rintro ⟨n, hn, rfl⟩
    obtain ⟨hn, hd⟩ := hsound.source?_eq_some_iff.mp hn
    rw [toNat_ofNat (hsound.isValidChar hn)]
    exact ⟨hn, hd⟩
  · intro h
    exact ⟨c.toNat, hsound.source?_eq_some_iff.mpr h, Char.ofNat_toNat c⟩

/-- What moves to `m.apply d`, and that character itself, is all that ends up there. -/
theorem eq_or_mem_sources_iff (hm : m.Settled) :
    c = m.apply d ∨ c ∈ m.sources (m.apply d) ↔ m.apply c = m.apply d := by
  rw [mem_sources_iff hm]
  constructor
  · rintro (rfl | ⟨r, hr, hc, hcd⟩)
    · exact apply_apply hm d
    · exact Char.toNat_inj.mp ((toNat_apply_of_holds hm hr hc).trans hcd)
  · intro h
    by_cases hc : ∃ r ∈ m.runs, r.Holds c.toNat
    · obtain ⟨r, hr, hc⟩ := hc
      exact .inr ⟨r, hr, hc, by rw [← h, toNat_apply_of_holds hm hr hc]⟩
    · exact .inl (by rw [← h, apply_of_not_holds fun r hr hrc => hc ⟨r, hr, hrc⟩])

end CaseMap

/-- The table of foldings is settled, which is checked run by run. -/
theorem settled_foldMap : foldMap.Settled where
  ascends := by decide
  sound := by decide +kernel
  misses := by decide +kernel

/-- **The variants of a character are those that fold as it does.** -/
@[simp] theorem mem_caseVariants_iff {c d : Char} : c ∈ caseVariants d ↔ fold c = fold d := by
  rw [caseVariants, List.mem_cons]
  exact CaseMap.eq_or_mem_sources_iff settled_foldMap

end RecordFilter.Text
