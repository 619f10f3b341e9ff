import RecordFilter.Proofs.Downgrade.Conversion
import RecordFilter.Proofs.Like.Lines

/-!
# Proofs/Downgrade/Lossless — when a conversion loses nothing

A wildcard of a pattern also matches the end of a line, a point of an expression does not. So a
conversion gains texts unless no wildcard has to cross a line: unless each run stands next to an
open end, with nothing but line ends and runs between them (`RunsOpen`).
-/

namespace RecordFilter.Downgrade

open Like (Token Spells Found Matches KeepsLines newlines fill letters doubles thin)

variable {same : Char → Char → Prop} {os oe : Bool} {ts x y : List Token} {g F : List Char}

/-- Every run has an open end on whose side there are runs and line ends alone, with one line end at
most between two runs. -/
def RunsOpen (openStart openEnd : Bool) (ts : List Token) : Prop :=
  ∀ x y, ts = x ++ .anyRun :: y →
    openStart = true ∧ thin x = true ∨ openEnd = true ∧ thin y = true

/-! ## Open runs lose nothing -/

/-- The literals up to the first run. -/
theorem eq_literals_or_first_run : ∀ {ts : List Token}, .anyChar ∉ ts →
    ∃ s : List Char, ts = s.map .literal ∨ ∃ y, ts = s.map .literal ++ .anyRun :: y
  | [], _ => ⟨[], .inl rfl⟩
  | .anyRun :: y, _ => ⟨[], .inr ⟨y, rfl⟩⟩
  | .anyChar :: _, h => absurd List.mem_cons_self h
  | .literal c :: ts, h => by
      obtain ⟨s, rfl | ⟨y, rfl⟩⟩ := eq_literals_or_first_run fun hmem =>
        h (List.mem_cons_of_mem _ hmem)
      · exact ⟨c :: s, .inl rfl⟩
      · exact ⟨c :: s, .inr ⟨y, rfl⟩⟩

/-- **Open runs stand before and behind literals**: those before them next to an open start, those
behind them next to an open end. -/
theorem RunsOpen.exists_parts (hchar : .anyChar ∉ ts) (h : RunsOpen os oe ts) :
    ∃ before, ∃ s : List Char, ∃ after, ts = before ++ (s.map .literal ++ after) ∧
      (before = [] ∨ os = true ∧ ∃ x, before = x ++ [.anyRun] ∧ thin x = true) ∧
      (after = [] ∨ oe = true ∧ ∃ y, after = .anyRun :: y ∧ thin y = true) := by
  induction hlen : ts.length using Nat.strong_induction_on generalizing ts with
  | _ n ih =>
  obtain ⟨s, rfl | ⟨y, rfl⟩⟩ := eq_literals_or_first_run hchar
  · exact ⟨[], s, [], by simp, .inl rfl, .inl rfl⟩
  rcases h _ y rfl with ⟨hos, hthin⟩ | ⟨hoe, hthin⟩
  · have hy : RunsOpen os oe y := by
      rintro x' y' rfl
      rcases h (s.map .literal ++ .anyRun :: x') y' (by simp) with ⟨hos, hx⟩ | hright
      · exact .inl ⟨hos, ((Like.thin_append_anyRun_iff _).mp hx).2⟩
      · exact .inr hright
    obtain ⟨before, s', after, rfl, hbefore, hafter⟩ :=
      ih y.length (by simp at hlen; omega) (fun hmem => hchar (by simp [hmem])) hy rfl
    refine ⟨s.map .literal ++ .anyRun :: before, s', after, by simp, .inr ⟨hos, ?_⟩, hafter⟩
    rcases hbefore with rfl | ⟨-, x', rfl, hx'⟩
    · exact ⟨_, rfl, hthin⟩
    · exact ⟨s.map .literal ++ .anyRun :: x', by simp,
        (Like.thin_append_anyRun_iff _).mpr ⟨hthin, hx'⟩⟩
  · exact ⟨[], s, .anyRun :: y, rfl, .inl rfl, .inr ⟨hoe, y, rfl, hthin⟩⟩

/-- Literals are spelled alike, whatever is wild. -/
theorem spells_literals_congr {wild wild' : Char → Prop} : ∀ {s t : List Char},
    Spells same wild (s.map Token.literal) t → Spells same wild' (s.map Token.literal) t
  | [], _, h => h
  | _ :: _, _, ⟨d, rest, ht, hd, h⟩ => ⟨d, rest, ht, hd, spells_literals_congr h⟩

/-- At an open start, what was matched up to a place is spelled from some earlier line on. -/
theorem exists_spells_before (hs : KeepsLines same) {before : List Token}
    (hbefore : before = [] ∨ os = true ∧ ∃ x, before = x ++ [.anyRun] ∧ thin x = true)
    {pre u : List Char} (hu : Matches same before u) (hpre : os = false → pre = []) :
    ∃ w v, pre ++ u = w ++ v ∧ Spells same (· ≠ '\n') before v ∧ (os = false → w = []) := by
  rcases hbefore with rfl | ⟨rfl, x, rfl, hx⟩
  · obtain rfl : u = [] := hu
    exact ⟨pre, [], rfl, rfl, hpre⟩
  · have hn := Like.newlines_le_count_of_matches hs hu
    obtain ⟨w, v, hw, hv⟩ := Like.exists_spells_suffix (t := pre ++ u) hs hx
      (by simp [newlines] at hn ⊢; omega)
    exact ⟨w, v, hw, hv, by simp⟩

/-- At an open end, what was matched from a place on is spelled up to some later line. -/
theorem exists_spells_behind (hs : KeepsLines same) {after : List Token}
    (hafter : after = [] ∨ oe = true ∧ ∃ y, after = .anyRun :: y ∧ thin y = true)
    {u post : List Char} (hu : Matches same after u) (hpost : oe = false → post = []) :
    ∃ v w, u ++ post = v ++ w ∧ Spells same (· ≠ '\n') after v ∧ (oe = false → w = []) := by
  rcases hafter with rfl | ⟨rfl, y, rfl, hy⟩
  · obtain rfl : u = [] := hu
    exact ⟨[], post, rfl, rfl, hpost⟩
  · have hn := Like.newlines_le_count_of_matches hs hu
    obtain ⟨v, w, hw, hv⟩ := Like.exists_spells_prefix (t := u ++ post) hs hy
      (by simp [newlines] at hn ⊢; omega)
    exact ⟨v, w, hw, hv, by simp⟩

/-- **Where all runs are open, what the tokens match is found without crossing a line.** -/
theorem RunsOpen.found (hs : KeepsLines same) (hchar : .anyChar ∉ ts) (h : RunsOpen os oe ts)
    {t : List Char} (ht : Found os oe (Matches same ts) t) :
    Found os oe (Spells same (· ≠ '\n') ts) t := by
  obtain ⟨pre, u, post, rfl, hu, hpre, hpost⟩ := ht
  obtain ⟨before, s, after, rfl, hbefore, hafter⟩ := h.exists_parts hchar
  obtain ⟨u₁, u₂, rfl, hu₁, hu₂⟩ := Like.spells_append_iff.mp (Like.spells_true_iff.mpr hu)
  obtain ⟨m, u₃, rfl, hm, hu₃⟩ := Like.spells_append_iff.mp hu₂
  obtain ⟨w₁, v₁, heq₁, hv₁, hw₁⟩ :=
    exists_spells_before hs hbefore (Like.spells_true_iff.mp hu₁) hpre
  obtain ⟨v₂, w₂, heq₂, hv₂, hw₂⟩ :=
    exists_spells_behind hs hafter (Like.spells_true_iff.mp hu₃) hpost
  refine ⟨w₁, v₁ ++ (m ++ v₂), w₂, ?_, ?_, hw₁, hw₂⟩
  · calc pre ++ (u₁ ++ (m ++ u₃)) ++ post
      _ = (pre ++ u₁) ++ m ++ (u₃ ++ post) := by simp
      _ = w₁ ++ (v₁ ++ (m ++ v₂)) ++ w₂ := by rw [heq₁, heq₂]; simp
  · exact Like.spells_append_iff.mpr ⟨v₁, m ++ v₂, rfl, hv₁,
      Like.spells_append_iff.mpr ⟨m, v₂, rfl, spells_literals_congr hm, hv₂⟩⟩

/-! ## Other wildcards gain texts -/

/-- A part of a text with fewer line ends than a stretch in its middle has lies on one side of it,
the stretch included, and leaves something out on the other. -/
theorem infix_of_count_lt {X Y pre v post : List Char} (h : X ++ F ++ Y = pre ++ v ++ post)
    (hv : v.count '\n' < F.count '\n') :
    pre ≠ [] ∧ v <:+: F ++ Y ∨ post ≠ [] ∧ v <:+: X ++ F := by
  have hlen := congrArg List.length h
  simp only [List.length_append] at hlen
  by_cases hend : (pre ++ v).length < (X ++ F).length
  · have hprefix : pre ++ v <+: X ++ F :=
      List.prefix_of_prefix_length_le ⟨post, rfl⟩ ⟨Y, h⟩ (Nat.le_of_lt hend)
    refine .inr ⟨?_, (List.suffix_append pre v).isInfix.trans hprefix.isInfix⟩
    rintro rfl
    simp only [List.length_append, List.length_nil] at hend hlen
    omega
  · by_cases hstart : pre.length ≤ X.length
    · -- The part would take in the whole stretch.
      have hpre : pre <+: X := List.prefix_of_prefix_length_le
        ⟨v ++ post, (List.append_assoc ..).symm⟩
        ⟨F ++ Y, (List.append_assoc ..).symm.trans h⟩ hstart
      have hcover : X ++ F <+: pre ++ v :=
        List.prefix_of_prefix_length_le ⟨Y, h⟩ ⟨post, rfl⟩ (Nat.le_of_not_lt hend)
      obtain ⟨a, rfl⟩ := hpre
      rw [List.append_assoc, List.prefix_append_right_inj] at hcover
      have hpart : F <:+: v := (List.suffix_append a F).isInfix.trans hcover.isInfix
      exact absurd (hpart.sublist.count_le '\n') (by omega)
    · have hsuffix : v ++ post <:+ F ++ Y :=
        List.suffix_of_suffix_length_le ⟨pre, (List.append_assoc ..).symm⟩
          ⟨X, (List.append_assoc ..).symm.trans h⟩ (by simp only [List.length_append]; omega)
      refine .inl ⟨?_, (List.prefix_append v post).isInfix.trans hsuffix.isInfix⟩
      rintro rfl
      exact hstart (Nat.zero_le _)

/-- `n` line ends with a `z` before, between and behind them. -/
def fence (z : Char) : Nat → List Char
  | 0 => [z]
  | n + 1 => z :: '\n' :: fence z n

section Fence

variable {z : Char}

theorem eq_of_mem_fence {d : Char} : ∀ {n : Nat}, d ∈ fence z n → d = '\n' ∨ d = z
  | 0, h => .inr (List.mem_singleton.mp h)
  | n + 1, h => by
      simp only [fence, List.mem_cons] at h
      rcases h with rfl | rfl | h
      · exact .inr rfl
      · exact .inl rfl
      · exact eq_of_mem_fence h

theorem count_newline_fence (hz : z ≠ '\n') : ∀ n, (fence z n).count '\n' = n
  | 0 => by simp [fence, hz]
  | n + 1 => by simp [fence, hz, count_newline_fence hz n]

theorem doubles_fence_append (hz : z ≠ '\n') (t : List Char) :
    ∀ n, doubles (fence z n ++ t) = doubles t
  | 0 => by simp [fence, doubles, hz]
  | n + 1 => by
      have hhead : (fence z n ++ t).head? = some z := by cases n <;> rfl
      simp [fence, doubles, hz, hhead, doubles_fence_append hz t n]

theorem doubles_append_fence (hz : z ≠ '\n') (s : List Char) (n : Nat) :
    doubles (s ++ fence z n) = doubles s := by
  obtain ⟨t, ht⟩ : ∃ t, fence z n = z :: t := by cases n <;> exact ⟨_, rfl⟩
  have hzero := doubles_fence_append hz [] n
  rw [ht, List.append_nil] at hzero
  have hle := (Like.doubles_le_cons z t).trans_eq hzero
  rw [ht, Like.doubles_append_cons hz]
  simp only [doubles] at hle
  omega

/-- A filler that is the same as some character that the tokens name, if not all are line ends, has
to be avoided. -/
theorem exists_filler (hsep : ∀ c, ∃ z, z ≠ '\n' ∧ ¬ same c z) (ts : List Token) :
    ∃ z, z ≠ '\n' ∧ (letters (fill [] ts) ≠ 0 → ∃ c, .literal c ∈ ts ∧ c ≠ '\n' ∧ ¬ same c z) := by
  by_cases hl : letters (fill [] ts) = 0
  · exact ⟨'a', by decide, fun h => absurd hl h⟩
  · obtain ⟨c, hc, hline⟩ := List.countP_pos_iff.mp (Nat.pos_of_ne_zero hl)
    have hline : c ≠ '\n' := by simpa using hline
    obtain ⟨z, hz, hcz⟩ := hsep c
    refine ⟨z, hz, fun _ => ⟨c, ?_, hline, hcz⟩⟩
    obtain ⟨tok, htok, hmem⟩ := List.mem_flatMap.mp hc
    cases tok with
    | literal d =>
      obtain rfl : c = d := List.mem_singleton.mp hmem
      exact htok
    | anyChar => exact absurd (List.mem_singleton.mp hmem) hline
    | anyRun => cases hmem

/-- Where no letters stand, there are line ends and the filler alone. -/
theorem eq_of_mem_fill {d : Char} (hl : letters (fill [] ts) = 0) (hd : d ∈ fill [z] ts) :
    d = '\n' ∨ d = z := by
  obtain ⟨tok, htok, hmem⟩ := List.mem_flatMap.mp hd
  cases tok with
  | literal c =>
    obtain rfl : d = c := List.mem_singleton.mp hmem
    have hd : d ∈ fill [] ts := List.mem_flatMap.mpr ⟨_, htok, hmem⟩
    exact .inl (by simpa using List.countP_eq_zero.mp hl d hd)
  | anyChar => exact .inl (List.mem_singleton.mp hmem)
  | anyRun => exact .inr (List.mem_singleton.mp hmem)

theorem exists_mem_of_spells {wild : Char → Prop} {c : Char} : ∀ {ts : List Token} {v : List Char},
    .literal c ∈ ts → Spells same wild ts v → ∃ d ∈ v, same c d
  | .literal _ :: _, _, .head _, ⟨d, rest, rfl, hd, _⟩ => ⟨d, List.mem_cons_self, hd⟩
  | .literal _ :: _, _, .tail _ hmem, ⟨_, _, rfl, _, h⟩ =>
      let ⟨d, hd, hcd⟩ := exists_mem_of_spells hmem h
      ⟨d, List.mem_cons_of_mem _ hd, hcd⟩
  | .anyChar :: _, _, .tail _ hmem, ⟨_, _, rfl, _, h⟩ =>
      let ⟨d, hd, hcd⟩ := exists_mem_of_spells hmem h
      ⟨d, List.mem_cons_of_mem _ hd, hcd⟩
  | .anyRun :: _, _, .tail _ hmem, ⟨_, _, rfl, _, h⟩ =>
      let ⟨d, hd, hcd⟩ := exists_mem_of_spells hmem h
      ⟨d, List.mem_append_right _ hd, hcd⟩

end Fence

section Gain

variable (hs : KeepsLines same) (hagree : ∀ t, Found os oe (Matches same ts) t →
  Found os oe (Spells same (· ≠ '\n') ts) t)
include hs hagree

/-- A text with line ends for points has more of them than the tokens name. -/
theorem anyChar_not_mem_of_agree : .anyChar ∉ ts := by
  have hfill := Like.matches_fill hs.refl [] ts
  obtain ⟨pre, v, post, heq, hv, -, -⟩ :=
    hagree (fill [] ts) ⟨[], _, [], by simp, hfill, fun _ => rfl, fun _ => rfl⟩
  have hlen := congrArg List.length heq
  have hle := hv.width_le
  rw [Like.length_fill_nil] at hlen
  simp only [List.length_append] at hlen
  obtain rfl : pre = [] := List.length_eq_zero_iff.mp (by omega)
  obtain rfl : post = [] := List.length_eq_zero_iff.mp (by omega)
  have hcount := congrArg (List.count '\n') heq
  rw [Like.count_newline_fill_nil, List.nil_append, List.append_nil,
    Like.count_newline_of_spells hs hv] at hcount
  exact List.count_eq_zero.mp (by omega)

/-- **With many line ends at one run, what is found stands on one side of it**, and the end on that
side is open. -/
theorem exists_spells_beside (hts : ts = x ++ .anyRun :: y) (g : List Char)
    (hF : newlines ts < F.count '\n') : ∃ v, Spells same (· ≠ '\n') ts v ∧
      (os = true ∧ v <:+: F ++ fill g y ∨ oe = true ∧ v <:+: fill g x ++ F) := by
  have hmatch : Matches same ts (fill g x ++ F ++ fill g y) := by
    rw [hts, ← Like.spells_true_iff, Like.spells_append_iff]
    refine ⟨fill g x, F ++ fill g y, by simp, ?_, F, fill g y, rfl, fun _ _ => trivial, ?_⟩
    · exact Like.spells_true_iff.mpr (Like.matches_fill hs.refl g x)
    · exact Like.spells_true_iff.mpr (Like.matches_fill hs.refl g y)
  obtain ⟨pre, v, post, heq, hv, hpre, hpost⟩ := hagree (fill g x ++ F ++ fill g y)
    ⟨[], _, [], by simp, hmatch, fun _ => rfl, fun _ => rfl⟩
  have hcount := Like.count_newline_of_spells hs hv
  refine ⟨v, hv, (infix_of_count_lt heq (hcount ▸ hF)).imp ?_ ?_⟩
  · exact fun ⟨hne, hpart⟩ => ⟨by by_contra hos; exact hne (hpre (by simpa using hos)), hpart⟩
  · exact fun ⟨hne, hpart⟩ => ⟨by by_contra hoe; exact hne (hpost (by simpa using hoe)), hpart⟩

/-- Line ends alone at the run show that no other characters stand on one open side. -/
theorem letters_eq_zero_of_agree (hts : ts = x ++ .anyRun :: y) :
    os = true ∧ letters (fill [] x) = 0 ∨ oe = true ∧ letters (fill [] y) = 0 := by
  obtain ⟨v, hv, hside⟩ := exists_spells_beside hs hagree hts []
    (F := List.replicate (newlines ts + 1) '\n') (by simp)
  have hle := Like.letters_fill_le hs hv
  have hF : letters (List.replicate (newlines ts + 1) '\n') = 0 := by simp [letters]
  rw [hts, Like.fill_append, Like.letters_append, Like.fill_anyRun_cons, List.nil_append] at hle
  rcases hside with ⟨hos, hpart⟩ | ⟨hoe, hpart⟩ <;>
    have hpart := Like.letters_le_of_infix hpart <;>
    rw [Like.letters_append, hF] at hpart
  · exact .inl ⟨hos, by omega⟩
  · exact .inr ⟨hoe, by omega⟩

/-- A fence at the run shows that no two line ends stand in a row on one open side, and that all
tokens are spelled on the other. -/
theorem doubles_eq_zero_of_agree (hchar : .anyChar ∉ ts) {z : Char} (hz : z ≠ '\n')
    (hts : ts = x ++ .anyRun :: y) : ∃ v n, Spells same (· ≠ '\n') ts v ∧
      (os = true ∧ doubles (fill [z] x) = 0 ∧ v <:+: fence z n ++ fill [z] y ∨
        oe = true ∧ doubles (fill [z] y) = 0 ∧ v <:+: fill [z] x ++ fence z n) := by
  obtain ⟨v, hv, hside⟩ := exists_spells_beside hs hagree hts [z]
    (F := fence z (newlines ts + 1)) (by rw [count_newline_fence hz]; omega)
  refine ⟨v, newlines ts + 1, hv, ?_⟩
  have hle := Like.doubles_fill_le hs hz hchar hv
  rw [hts, Like.fill_append, Like.fill_anyRun_cons, List.singleton_append,
    Like.doubles_append_cons hz] at hle
  rcases hside with ⟨hos, hpart⟩ | ⟨hoe, hpart⟩ <;>
    have hpart' := Like.doubles_le_of_infix hpart
  · rw [doubles_fence_append hz] at hpart'
    exact .inl ⟨hos, by omega, hpart⟩
  · rw [doubles_append_fence hz] at hpart'
    exact .inr ⟨hoe, by omega, hpart⟩

omit hagree in
/-- A text of line ends and fillers alone spells no tokens with letters. -/
theorem letters_fill_eq_zero {z : Char} {v : List Char} (hv : Spells same (· ≠ '\n') ts v)
    (hfiller : letters (fill [] ts) ≠ 0 → ∃ c, .literal c ∈ ts ∧ c ≠ '\n' ∧ ¬ same c z)
    (honly : ∀ d ∈ v, d = '\n' ∨ d = z) : letters (fill [] ts) = 0 := by
  by_contra hl
  obtain ⟨c, hc, hline, hcz⟩ := hfiller hl
  obtain ⟨d, hd, hcd⟩ := exists_mem_of_spells hc hv
  rcases honly d hd with rfl | rfl
  · exact hline ((hs.line_iff hcd).mpr rfl)
  · exact hcz hcd

/-- **If no texts are gained, all runs are open.** -/
theorem runsOpen_of_agree (hsep : ∀ c, ∃ z, z ≠ '\n' ∧ ¬ same c z) :
    RunsOpen os oe ts := by
  intro x y hts
  have hchar := anyChar_not_mem_of_agree hs hagree
  have hcharx : .anyChar ∉ x := fun h => hchar (hts ▸ List.mem_append_left _ h)
  have hchary : .anyChar ∉ y := fun h => hchar (hts ▸ by simp [h])
  have hsum : letters (fill [] ts) = letters (fill [] x) + letters (fill [] y) := by
    simp [hts]
  obtain ⟨z, hz, hfiller⟩ := exists_filler hsep ts
  obtain ⟨v, n, hv, hside⟩ := doubles_eq_zero_of_agree hs hagree hchar hz hts
  -- The text found stands beside one side of the run; letters on that side would be in it.
  have hletters := letters_eq_zero_of_agree hs hagree hts
  rcases hside with ⟨hos, hd, hpart⟩ | ⟨hoe, hd, hpart⟩
  · refine .inl ⟨hos, Like.thin_of_fill hz hcharx ?_ hd⟩
    rcases hletters with ⟨-, hx⟩ | ⟨-, hy⟩
    · exact hx
    · have := letters_fill_eq_zero hs hv hfiller fun d hd => by
        rcases List.mem_append.mp (hpart.subset hd) with hd | hd
        · exact eq_of_mem_fence hd
        · exact eq_of_mem_fill hy hd
      omega
  · refine .inr ⟨hoe, Like.thin_of_fill hz hchary ?_ hd⟩
    rcases hletters with ⟨-, hx⟩ | ⟨-, hy⟩
    · have := letters_fill_eq_zero hs hv hfiller fun d hd => by
        rcases List.mem_append.mp (hpart.subset hd) with hd | hd
        · exact eq_of_mem_fill hx hd
        · exact eq_of_mem_fence hd
      omega
    · exact hy

end Gain

/-- Wildcards that stay on a line do not match more than those that do not. -/
theorem found_matches_of_spells {wild : Char → Prop} {t : List Char}
    (h : Found os oe (Spells same wild ts) t) : Found os oe (Matches same ts) t :=
  h.imp fun _ hs => Like.spells_true_iff.mp (hs.mono fun _ _ => trivial)

/-- **Wildcards that cross lines gain no text exactly if all of them are open runs.** -/
theorem found_agree_iff (hs : KeepsLines same)
    (hsep : ∀ c, ∃ z, z ≠ '\n' ∧ ¬ same c z) :
    (∀ t, Found os oe (Matches same ts) t → Found os oe (Spells same (· ≠ '\n') ts) t) ↔
      .anyChar ∉ ts ∧ RunsOpen os oe ts :=
  ⟨fun h => ⟨anyChar_not_mem_of_agree hs h, runsOpen_of_agree hs h hsep⟩,
    fun h _ => h.2.found hs h.1⟩

/-! ## Brackets that are not plain -/

/-- **A row of characters and runs matches a text of one character each, or nothing at all.** -/
theorem Spans.exists_or_forall_not {trees : List Regex.Tree} {n : Nat} (h : Spans trees n) :
    (∃ s : List Char, s.length = n ∧ ∀ t i j, Regex.Segment t i j s →
      Regex.MatchesAll t (trees.map Regex.Tree.regex) i j) ∨
    ∀ t i j, ¬ Regex.MatchesAll t (trees.map Regex.Tree.regex) i j := by
  induction h with
  | nil => exact .inl ⟨[], rfl, fun t i j => Regex.segment_nil_iff.mp⟩
  | @one tree trees n s hs h ih =>
    by_cases hd : ∃ d, s.contains d = true
    · obtain ⟨d, hd⟩ := hd
      refine ih.imp (fun ⟨w, hw, hall⟩ => ⟨d :: w, congrArg Nat.succ hw, fun t i j hseg => ?_⟩)
        fun hnone t i j ⟨k, _, h⟩ => hnone t k j h
      obtain ⟨k, hk, hseg⟩ := (Regex.segment_append_iff (a := [d])).mp hseg
      exact ⟨k, hs ▸ Regex.matches_chars_iff.mpr ⟨d, hd, hk⟩, hall t k j hseg⟩
    · refine .inr fun t i j ⟨k, hk, _⟩ => hd ?_
      obtain ⟨d, hd, _⟩ := Regex.matches_chars_iff.mp (hs ▸ hk)
      exact ⟨d, hd⟩
  | @run tree trees n s hs h ih =>
    refine ih.imp (fun ⟨w, hw, hall⟩ => ⟨w, hw, fun t i j hseg => ⟨i, hs ▸ ?_, hall t i j hseg⟩⟩)
      fun hnone t i j ⟨k, _, h⟩ => hnone t k j h
    have hi := (Regex.segment_append_iff (a := [])).mp hseg
    obtain ⟨k, hk, -⟩ := hi
    obtain ⟨hi, rfl⟩ := Regex.segment_nil_iff.mp hk
    exact Regex.matches_star_iff.mpr ⟨[], nofun, hk⟩

theorem Spans.ordered {trees : List Regex.Tree} {n : Nat} (h : Spans trees n) :
    ∀ r ∈ trees, r.regex.Ordered := by
  induction h with
  | nil => nofun
  | one hs _ ih =>
    rintro r (_ | ⟨_, hr⟩)
    · exact hs ▸ trivial
    · exact ih r hr
  | run hs _ ih =>
    rintro r (_ | ⟨_, hr⟩)
    · rw [hs]
      exact ⟨trivial, nofun⟩
    · exact ih r hr

variable {source : String} {ignoreCase : Bool} {body : List Char} {p : RegexPattern}

/-- **The expression matches as its row of characters and runs does, between its anchors.** -/
theorem Converts.exists_row (h : Converts source os oe body ts)
    (hp : RegexPattern.compile source ignoreCase = .ok p) :
    ∃ trees n, Spans trees n ∧ (.anyRun ∉ ts → trees.length = n) ∧
      (plainBrackets body = false → n < Like.width ts) ∧
      ∀ t : String, p.isMatch t = true ↔
        ∃ i j, Regex.MatchesAll t.toList (trees.map Regex.Tree.regex) i j ∧
          (os = false → i = 0) ∧ (oe = false → j = t.toList.length) := by
  have hf := plain_searchFlags ignoreCase false
  obtain ⟨trees, n, hspans, -, hruns, hmore, hr⟩ := h.exists_spans hf (RegexPattern.matcher_eq hp)
  refine ⟨trees, n, hspans, hruns, fun hplain => (hmore hplain).1, fun t => ?_⟩
  exact (Regex.isMatch_eq_true_iff (hr ▸ Regex.ordered_anchored hspans.ordered) t).trans
    (hr ▸ Regex.finds_anchored_iff hf.multiLine)

/-- **Where brackets are not plain, the expression matches a text too short for the tokens, or
nothing at all.** -/
theorem Converts.exists_gain (hs : KeepsLines same) (h : Converts source os oe body ts)
    (hp : RegexPattern.compile source ignoreCase = .ok p) (hplain : plainBrackets body = false) :
    ∃ t : String, ¬ (p.isMatch t = true ↔ Found os oe (Matches same ts) t.toList) := by
  obtain ⟨trees, n, hspans, -, hmore, hmatch⟩ := h.exists_row hp
  rcases hspans.exists_or_forall_not with ⟨s, hlen, hall⟩ | hnone
  · refine ⟨.ofList s, fun hiff => ?_⟩
    rw [hmatch, String.toList_ofList] at hiff
    have hseg : Regex.Segment s 0 s.length s := ⟨[], [], by simp, rfl, by simp⟩
    obtain ⟨pre, u, post, rfl, hu, -, -⟩ :=
      hiff.mp ⟨0, s.length, hall _ _ _ hseg, fun _ => rfl, fun _ => rfl⟩
    have hwidth := (Like.spells_true_iff.mpr hu).width_le
    have hlt := hmore hplain
    simp only [List.length_append] at hlen
    omega
  · refine ⟨.ofList (fill [] ts), fun hiff => ?_⟩
    rw [hmatch, String.toList_ofList] at hiff
    obtain ⟨i, j, hij, -⟩ := hiff.mpr
      ⟨[], _, [], by simp, Like.matches_fill hs.refl [] ts, fun _ => rfl, fun _ => rfl⟩
    exact hnone _ i j hij

/-! ## Lossless conversions -/

theorem fold_eq_fold_newline_iff {c : Char} : Text.fold c = Text.fold '\n' ↔ c = '\n' := by
  have hvariants : Text.caseVariants '\n' = ['\n'] := by decide
  rw [← Text.mem_caseVariants_iff, hvariants, List.mem_singleton]

/-- Ignoring case keeps line ends apart from all other characters. -/
theorem keepsLines_same (ignoreCase : Bool) : KeepsLines (Like.Same ignoreCase) := by
  cases ignoreCase with
  | false => exact ⟨fun _ => rfl, fun {c d} (h : c = d) => h ▸ Iff.rfl⟩
  | true =>
    refine ⟨fun _ => rfl, fun {c d} (h : Text.fold c = Text.fold d) => ?_⟩
    rw [← fold_eq_fold_newline_iff, h, fold_eq_fold_newline_iff]

/-- No character is the same as both `a` and `b`. -/
theorem exists_not_same (ignoreCase : Bool) (c : Char) :
    ∃ z, z ≠ '\n' ∧ ¬ Like.Same ignoreCase c z := by
  by_cases ha : Like.Same ignoreCase c 'a'
  · refine ⟨'b', by decide, fun hb => ?_⟩
    cases ignoreCase with
    | false => exact absurd (ha.symm.trans hb) (by decide)
    | true => exact absurd ((show Text.fold c = _ from ha).symm.trans hb) (by decide)
  · exact ⟨'a', by decide, ha⟩

/-- The conversion of an expression loses nothing: its brackets are what they look like, it has no
point without a star, and each run stands next to an open end, with line ends and runs alone between
them. -/
def Lossless (source : String) : Prop :=
  let stripped := stripAnchors source.toList
  plainBrackets stripped.body = true ∧ ∃ ts, tokenize stripped.body = some ts ∧
    .anyChar ∉ ts ∧ RunsOpen stripped.openStart stripped.openEnd ts

/-- With plain brackets, the pattern matches the same texts exactly if no wildcard has to cross a
line. -/
theorem Converts.forall_isMatch_eq_iff (h : Converts source os oe body ts)
    (hp : RegexPattern.compile source ignoreCase = .ok p) (hplain : plainBrackets body = true)
    {q : LikePattern} (hq : ∀ t, q.isMatch t = true ↔
      Found os oe (Matches (Like.Same ignoreCase) ts) t.toList) :
    (∀ t, p.isMatch t = q.isMatch t) ↔ .anyChar ∉ ts ∧ RunsOpen os oe ts := by
  rw [← found_agree_iff (keepsLines_same ignoreCase) (exists_not_same ignoreCase)]
  constructor
  · intro hagree t ht
    have hq' := hq (.ofList t)
    rw [← hagree, h.isMatch_iff hp hplain, String.toList_ofList] at hq'
    exact hq'.mpr ht
  · intro hagree t
    rw [Bool.eq_iff_iff, h.isMatch_iff hp hplain t, hq t]
    exact ⟨found_matches_of_spells, hagree t.toList⟩

/-- On a text without line ends, wildcards that do not cross lines match as much as others. -/
theorem found_spells_iff {t : List Char} (hline : '\n' ∉ t) :
    Found os oe (Spells same (· ≠ '\n') ts) t ↔ Found os oe (Matches same ts) t := by
  refine ⟨found_matches_of_spells, ?_⟩
  rintro ⟨pre, s, post, rfl, hmatch, hends⟩
  refine ⟨pre, s, post, rfl, ?_, hends⟩
  refine (Like.spells_true_iff.mpr hmatch).of_forall_mem fun d hd heq => hline ?_
  rw [← heq]
  exact List.mem_append_left _ (List.mem_append_right _ hd)

/-- **The pattern matches the same texts as the expression exactly if the conversion is lossless.**
Otherwise, if at least all brackets are plain, it only gains texts that have line ends. -/
theorem isMatch_eq_iff_lossless (hp : RegexPattern.compile source ignoreCase = .ok p)
    (hmode : (convert source ignoreCase).mode ≠ .native) :
    ∃ q, LikePattern.compile (convert source ignoreCase).source
        (!(convert source ignoreCase).caseSensitive) = .ok q ∧
      ((∀ t, p.isMatch t = q.isMatch t) ↔ Lossless source) ∧
      (plainBrackets (stripAnchors source.toList).body = true → ∀ t,
        (p.isMatch t = true → q.isMatch t = true) ∧
        ('\n' ∉ t.toList → p.isMatch t = q.isMatch t)) := by
  obtain ⟨ts, hts, h⟩ := exists_converts hmode
  obtain ⟨q, hq, hqmatch⟩ := h.exists_like ignoreCase
  refine ⟨q, hq, ⟨fun hagree => ?_, ?_⟩, fun hplain t => ⟨?_, fun hline => ?_⟩⟩
  · have hplain : plainBrackets (stripAnchors source.toList).body = true := by
      by_contra hplain
      obtain ⟨t, ht⟩ := h.exists_gain (keepsLines_same ignoreCase) hp (by simpa using hplain)
      exact ht (hagree t ▸ hqmatch t)
    exact ⟨hplain, ts, hts, (h.forall_isMatch_eq_iff hp hplain hqmatch).mp hagree⟩
  · rintro ⟨hplain, ts', hts', hopen⟩
    obtain rfl : ts = ts' := Option.some.inj (hts.symm.trans hts')
    exact (h.forall_isMatch_eq_iff hp hplain hqmatch).mpr hopen
  · rw [h.isMatch_iff hp hplain t, hqmatch t]
    exact found_matches_of_spells
  · rw [Bool.eq_iff_iff, h.isMatch_iff hp hplain t, hqmatch t]
    exact found_spells_iff hline

/-- An anchored text and a run towards the open end. -/
theorem isMatch_eq_iff_lossless_prefix :
    ∃ p q, RegexPattern.compile "^a.*" false = .ok p ∧
      LikePattern.compile (convert "^a.*" false).source
        (!(convert "^a.*" false).caseSensitive) = .ok q ∧ ∀ t, p.isMatch t = q.isMatch t := by
  obtain ⟨r, hr⟩ : ∃ r, Regex.compile { caseInsensitive := false } "^a.*" = .ok r := ⟨_, rfl⟩
  obtain ⟨p, hp, -⟩ := RegexPattern.exists_compile hr
  obtain ⟨q, hq, hiff, -⟩ := isMatch_eq_iff_lossless hp (by decide +kernel)
  have hopen : RunsOpen false true [.literal 'a', .anyRun] := by
    intro x y h
    rcases x with _ | ⟨_, _ | ⟨_, x⟩⟩ <;> simp at h
    exact .inr ⟨rfl, h.2 ▸ rfl⟩
  refine ⟨p, q, hp, hq, hiff.mpr ⟨by decide +kernel, _, rfl, by decide, hopen⟩⟩

/-- The point of an expression does not stand for the end of a line, the wildcard of its pattern
does. -/
theorem not_isMatch_eq_of_point : ∃ p q,
    RegexPattern.compile "a.b" false = .ok p ∧ (convert "a.b" false).mode ≠ .native ∧
    LikePattern.compile (convert "a.b" false).source
      (!(convert "a.b" false).caseSensitive) = .ok q ∧
    p.isMatch "a\nb" = false ∧ q.isMatch "a\nb" = true :=
  ⟨_, _, rfl, by decide +kernel, rfl, by decide +kernel, by decide +kernel⟩

end RecordFilter.Downgrade
