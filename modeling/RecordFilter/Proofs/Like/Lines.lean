import Mathlib.Data.List.Infix
import RecordFilter.Proofs.Like.Spelling

/-!
# Proofs/Like/Lines — tokens whose wildcards stay on a line

Where wildcards do not stand for line ends, a spelled text has the line ends that the tokens name
and no others (`count_newline_of_spells`). `fill` writes a text for every list of tokens, with a
filler for the runs; a list is `thin` if it has runs and line ends alone, one at most between two
runs. Then its texts are found on the way from any place to the next few ends of lines
(`exists_spells_prefix`, `exists_spells_suffix`).
-/

namespace RecordFilter.Like

/-- Every character is the same as itself, and the end of a line is the same as nothing else. -/
structure KeepsLines (same : Char → Char → Prop) : Prop where
  refl : ∀ c, same c c
  line_iff : ∀ {c d}, same c d → (c = '\n' ↔ d = '\n')

variable {same : Char → Char → Prop} {ts x y : List Token} {s t v g : List Char}

/-! ## Line ends -/

/-- How many line ends the tokens name. -/
def newlines (ts : List Token) : Nat := ts.count (.literal '\n')

/-- Only a plain line feed names a line end; wildcards do not. -/
@[simp] theorem newlines_literal_cons (c : Char) (ts : List Token) :
    newlines (.literal c :: ts) = newlines ts + if c = '\n' then 1 else 0 := by
  simp [newlines, List.count_cons]

@[simp] theorem newlines_anyChar_cons (ts : List Token) :
    newlines (.anyChar :: ts) = newlines ts := rfl

@[simp] theorem newlines_anyRun_cons (ts : List Token) :
    newlines (.anyRun :: ts) = newlines ts := rfl

/-- A text on one line has no line ends. -/
theorem count_newline_eq_zero (h : ∀ d ∈ s, d ≠ '\n') : s.count '\n' = 0 :=
  List.count_eq_zero.mpr fun hs => h _ hs rfl

/-- **A text whose wildcards stay on a line has the line ends that its tokens name.** -/
theorem count_newline_of_spells (hs : KeepsLines same) : ∀ {ts : List Token} {s : List Char},
    Spells same (· ≠ '\n') ts s → s.count '\n' = newlines ts
  | [], _, rfl => rfl
  | .literal c :: ts, _, ⟨d, rest, rfl, hd, h⟩ => by
      simp [List.count_cons, count_newline_of_spells hs h, hs.line_iff hd]
  | .anyChar :: ts, _, ⟨d, rest, rfl, hd, h⟩ => by
      simp [count_newline_of_spells hs h, hd]
  | .anyRun :: ts, _, ⟨run, rest, rfl, hrun, h⟩ => by
      simp [List.count_append, count_newline_of_spells hs h, count_newline_eq_zero hrun]

/-- Wildcards for any character at all may add line ends. -/
theorem newlines_le_count_of_matches (hs : KeepsLines same) : ∀ {ts : List Token} {s : List Char},
    Matches same ts s → newlines ts ≤ s.count '\n'
  | [], _, rfl => Nat.le_refl 0
  | .literal c :: ts, _, ⟨d, rest, rfl, hd, h⟩ => by
      simp [List.count_cons, newlines_le_count_of_matches hs h, hs.line_iff hd]
  | .anyChar :: ts, _, ⟨d, rest, rfl, h⟩ =>
      (newlines_le_count_of_matches hs h).trans List.count_le_count_cons
  | .anyRun :: ts, _, ⟨run, rest, rfl, h⟩ => by
      have ih := newlines_le_count_of_matches hs h
      simp only [newlines_anyRun_cons, List.count_append]
      omega

/-! ## Texts written for tokens -/

/-- A text for a token, with `g` for a run and the end of a line for any one character. -/
def Token.filled (g : List Char) : Token → List Char
  | literal c => [c]
  | anyChar => ['\n']
  | anyRun => g

/-- A text for a list of tokens, with `g` for each run. -/
def fill (g : List Char) (ts : List Token) : List Char := ts.flatMap (Token.filled g)

@[simp] theorem fill_literal_cons (g : List Char) (c : Char) (ts : List Token) :
    fill g (.literal c :: ts) = c :: fill g ts := rfl

@[simp] theorem fill_anyChar_cons (g : List Char) (ts : List Token) :
    fill g (.anyChar :: ts) = '\n' :: fill g ts := rfl

@[simp] theorem fill_anyRun_cons (g : List Char) (ts : List Token) :
    fill g (.anyRun :: ts) = g ++ fill g ts := rfl

@[simp] theorem fill_append (g : List Char) (ts us : List Token) :
    fill g (ts ++ us) = fill g ts ++ fill g us := List.flatMap_append

/-- The text written for tokens is one that they match. -/
theorem matches_fill (hrefl : ∀ c, same c c) (g : List Char) : ∀ ts, Matches same ts (fill g ts)
  | [] => rfl
  | .literal c :: ts => ⟨c, _, rfl, hrefl c, matches_fill hrefl g ts⟩
  | .anyChar :: ts => ⟨'\n', _, rfl, matches_fill hrefl g ts⟩
  | .anyRun :: ts => ⟨g, _, rfl, matches_fill hrefl g ts⟩

/-- With nothing for the runs, the text is as short as the tokens allow. -/
@[simp] theorem length_fill_nil : ∀ ts, (fill [] ts).length = width ts
  | [] => rfl
  | .literal _ :: ts => congrArg Nat.succ (length_fill_nil ts)
  | .anyChar :: ts => congrArg Nat.succ (length_fill_nil ts)
  | .anyRun :: ts => length_fill_nil ts

/-- The text written for tokens has their line ends, and one for each wildcard for one character. -/
theorem count_newline_fill_nil : ∀ ts, (fill [] ts).count '\n' = newlines ts + ts.count .anyChar
  | [] => rfl
  | .literal c :: ts => by
      simp [List.count_cons, count_newline_fill_nil ts]
      omega
  | .anyChar :: ts => by
      simp [count_newline_fill_nil ts]
      omega
  | .anyRun :: ts => by simp [count_newline_fill_nil ts]

/-! ## What is on the lines -/

/-- How many characters are no line ends. -/
def letters (s : List Char) : Nat := s.countP (· ≠ '\n')

/-- How many line ends follow a line end at once. -/
def doubles : List Char → Nat
  | [] => 0
  | c :: s => (if c = '\n' ∧ s.head? = some '\n' then 1 else 0) + doubles s

@[simp] theorem letters_cons (c : Char) (s : List Char) :
    letters (c :: s) = letters s + if c = '\n' then 0 else 1 := by
  simp only [letters, List.countP_cons]
  split <;> simp_all

theorem doubles_cons_cons (c d : Char) (s : List Char) :
    doubles (c :: d :: s) = (if c = '\n' ∧ d = '\n' then 1 else 0) + doubles (d :: s) := by
  simp [doubles]

@[simp] theorem letters_append (s t : List Char) : letters (s ++ t) = letters s + letters t :=
  List.countP_append

/-- A part of a text has no more letters than the text. -/
theorem letters_le_of_infix (h : s <:+: t) : letters s ≤ letters t := h.sublist.countP_le

/-- A spelled text has at least the characters that the tokens name. -/
theorem letters_fill_le (hs : KeepsLines same) : ∀ {ts : List Token} {v : List Char},
    Spells same (· ≠ '\n') ts v → letters (fill [] ts) ≤ letters v
  | [], _, rfl => Nat.le_refl 0
  | .literal c :: ts, _, ⟨d, rest, rfl, hd, h⟩ => by
      have ih := letters_fill_le hs h
      simp [hs.line_iff hd, ih]
  | .anyChar :: ts, _, ⟨d, rest, rfl, hd, h⟩ => by
      have ih := letters_fill_le hs h
      simp only [fill_anyChar_cons, letters_cons, if_true]
      omega
  | .anyRun :: ts, _, ⟨run, rest, rfl, hrun, h⟩ => by
      rw [letters_append]
      exact (letters_fill_le hs h).trans (Nat.le_add_left ..)

/-- A further character in front takes no pair of line ends away. -/
theorem doubles_le_cons (c : Char) (s : List Char) : doubles s ≤ doubles (c :: s) :=
  Nat.le_add_left ..

theorem doubles_le_append_left (s : List Char) : ∀ t, doubles s ≤ doubles (t ++ s)
  | [] => Nat.le_refl _
  | c :: t => (doubles_le_append_left s t).trans (doubles_le_cons c (t ++ s))

theorem doubles_le_append_right (t : List Char) : ∀ s, doubles s ≤ doubles (s ++ t)
  | [] => Nat.zero_le _
  | [c] => by simp [doubles]
  | c :: d :: s => by
      have ih := doubles_le_append_right t (d :: s)
      simp only [List.cons_append, doubles_cons_cons] at ih ⊢
      omega

/-- A part of a text has no more pairs of line ends than the text. -/
theorem doubles_le_of_infix (h : s <:+: t) : doubles s ≤ doubles t := by
  obtain ⟨pre, post, rfl⟩ := h
  exact (doubles_le_append_left s pre).trans (doubles_le_append_right post (pre ++ s))

/-- A character between two texts keeps their line ends apart. -/
theorem doubles_append_cons {z : Char} (hz : z ≠ '\n') (t : List Char) :
    ∀ s, doubles (s ++ z :: t) = doubles s + doubles t
  | [] => by simp [doubles, hz]
  | [c] => by simp [doubles, hz]
  | c :: d :: s => by
      have ih := doubles_append_cons hz t (d :: s)
      simp only [List.cons_append, doubles_cons_cons] at ih ⊢
      omega

/-- A spelled text has at least the pairs of line ends that the tokens name. -/
theorem doubles_fill_le (hs : KeepsLines same) {z : Char} (hz : z ≠ '\n') :
    ∀ {ts : List Token} {v : List Char}, .anyChar ∉ ts → Spells same (· ≠ '\n') ts v →
      doubles (fill [z] ts) ≤ doubles v
  | [], _, _, rfl => Nat.le_refl 0
  | .literal c :: ts, _, hts, ⟨d, rest, rfl, hd, h⟩ => by
      have ih := doubles_fill_le hs hz (fun hmem => hts (List.mem_cons_of_mem _ hmem)) h
      have hhead : c = '\n' ∧ (fill [z] ts).head? = some '\n' →
          d = '\n' ∧ rest.head? = some '\n' := by
        rintro ⟨hc, hhead⟩
        refine ⟨(hs.line_iff hd).mp hc, ?_⟩
        match ts, h with
        | .literal c' :: ts, ⟨d', rest', hrest, hd', _⟩ =>
          obtain rfl : c' = '\n' := by simpa using hhead
          rw [hrest, (hs.line_iff hd').mp rfl]
          rfl
        | .anyChar :: ts, _ => exact absurd (by simp) hts
        | .anyRun :: ts, _ => exact absurd (by simpa using hhead) hz
      simp only [fill_literal_cons, doubles]
      split
      · next hline => rw [if_pos (hhead hline)]; omega
      · omega
  | .anyChar :: ts, _, hts, _ => absurd List.mem_cons_self hts
  | .anyRun :: ts, _, hts, ⟨run, rest, hrest, hrun, h⟩ => by
      subst hrest
      have ih := doubles_fill_le hs hz (fun hmem => hts (List.mem_cons_of_mem _ hmem)) h
      rw [fill_anyRun_cons, List.singleton_append, ← List.nil_append (z :: _),
        doubles_append_cons hz]
      have := doubles_le_append_left rest run
      simp only [doubles]
      omega

/-! ## Thin tokens -/

/-- Whether the tokens are runs and line ends alone, with one line end at most between two runs. -/
def thin : List Token → Bool
  | [] => true
  | .anyRun :: ts => thin ts
  | [.literal c] => c = '\n'
  | .literal c :: .anyRun :: ts => c = '\n' && thin ts
  | _ => false

@[simp] theorem thin_anyRun_cons (ts : List Token) : thin (.anyRun :: ts) = thin ts := by rw [thin]

/-- A thin list that starts with a character starts with a line end, and a run follows if anything
does. -/
theorem thin_literal_cons {c : Char} : thin (.literal c :: ts) = true ↔
    c = '\n' ∧ (ts = [] ∨ ∃ us, ts = .anyRun :: us ∧ thin us = true) := by
  match ts with
  | [] => simp [thin]
  | .anyRun :: us => simp [thin]
  | .literal d :: us => simp [thin]
  | .anyChar :: us => simp [thin]

/-- A run between thin lists keeps them thin. -/
@[simp] theorem thin_append_anyRun_iff : ∀ x : List Token,
    thin (x ++ .anyRun :: y) = true ↔ thin x = true ∧ thin y = true
  | [] => by simp [thin]
  | .anyRun :: x => by simp [thin_append_anyRun_iff x]
  | .anyChar :: x => by simp [thin]
  | .literal c :: [] => by simp [thin]
  | .literal c :: .anyRun :: x => by simp [thin, thin_append_anyRun_iff x, and_assoc]
  | .literal c :: .literal d :: x => by simp [thin]
  | .literal c :: .anyChar :: x => by simp [thin]

/-- **Tokens are thin whose texts have nothing but line ends, no two of them in a row.** -/
theorem thin_of_fill {z : Char} (hz : z ≠ '\n') : ∀ {ts : List Token}, .anyChar ∉ ts →
    letters (fill [] ts) = 0 → doubles (fill [z] ts) = 0 → thin ts = true
  | [], _, _, _ => rfl
  | .anyRun :: ts, hchar, hl, hd => by
      rw [thin_anyRun_cons]
      refine thin_of_fill hz (fun hmem => hchar (List.mem_cons_of_mem _ hmem)) hl ?_
      exact Nat.eq_zero_of_le_zero ((doubles_le_cons z _).trans_eq hd)
  | .anyChar :: ts, hchar, _, _ => absurd List.mem_cons_self hchar
  | .literal c :: ts, hchar, hl, hd => by
      rw [fill_literal_cons, letters_cons] at hl
      obtain rfl : c = '\n' := by
        by_contra hc
        rw [if_neg hc] at hl
        omega
      have hrest := thin_of_fill hz (fun hmem => hchar (List.mem_cons_of_mem _ hmem))
        (Nat.eq_zero_of_add_eq_zero_right hl)
        (Nat.eq_zero_of_le_zero ((doubles_le_cons '\n' _).trans_eq hd))
      refine thin_literal_cons.mpr ⟨rfl, ?_⟩
      match ts with
      | [] => exact .inl rfl
      | .anyRun :: us => exact .inr ⟨us, rfl, thin_anyRun_cons us ▸ hrest⟩
      | .anyChar :: us => exact absurd (by simp) hchar
      | .literal d :: us =>
        obtain ⟨rfl, -⟩ := thin_literal_cons.mp hrest
        exact absurd hd (by simp [doubles])

/-- The first line end of a text that has one. -/
theorem exists_first_newline (h : 0 < t.count '\n') :
    ∃ a b, t = a ++ '\n' :: b ∧ (∀ d ∈ a, d ≠ '\n') := by
  obtain ⟨a, b, rfl, ha⟩ := List.eq_append_cons_of_mem (List.count_pos_iff.mp h)
  exact ⟨a, b, rfl, fun d hd heq => ha (heq ▸ hd)⟩

/-- The last line end of a text that has one. -/
theorem exists_last_newline (h : 0 < t.count '\n') :
    ∃ a b, t = a ++ '\n' :: b ∧ (∀ d ∈ b, d ≠ '\n') := by
  obtain ⟨b, a, heq, hb⟩ := exists_first_newline (t := t.reverse) (by rwa [List.count_reverse])
  refine ⟨a.reverse, b.reverse, ?_, fun d hd => hb d (List.mem_reverse.mp hd)⟩
  rw [← List.reverse_inj, heq]
  simp

/-- **From the start of a text, thin tokens behind a run are spelled on the way to the next line
ends.** -/
theorem exists_spells_prefix (hs : KeepsLines same) : ∀ {y : List Token} {t : List Char},
    thin y = true → newlines y ≤ t.count '\n' →
    ∃ v w, t = v ++ w ∧ Spells same (· ≠ '\n') (.anyRun :: y) v
  | [], t, _, _ => ⟨[], t, rfl, [], [], rfl, nofun, rfl⟩
  | .anyRun :: y, t, hy, hn => by
      rw [thin_anyRun_cons] at hy
      obtain ⟨v, w, rfl, h⟩ := exists_spells_prefix hs hy hn
      exact ⟨v, w, rfl, [], v, rfl, nofun, h⟩
  | .anyChar :: y, _, hy, _ => by simp [thin] at hy
  | .literal c :: y, t, hy, hn => by
      obtain ⟨rfl, hrest⟩ := thin_literal_cons.mp hy
      rw [newlines_literal_cons, if_pos rfl] at hn
      obtain ⟨a, b, rfl, ha⟩ := exists_first_newline (Nat.lt_of_lt_of_le (Nat.succ_pos _) hn)
      have hb : newlines y ≤ b.count '\n' := by
        rw [List.count_append, count_newline_eq_zero ha, List.count_cons_self] at hn
        omega
      rcases hrest with rfl | ⟨us, rfl, hus⟩
      · exact ⟨a ++ ['\n'], b, by simp, a, ['\n'], rfl, ha, '\n', [], rfl, hs.refl _, rfl⟩
      · obtain ⟨v, w, rfl, h⟩ := exists_spells_prefix hs hus hb
        exact ⟨a ++ '\n' :: v, w, by simp, a, '\n' :: v, rfl, ha, '\n', v, rfl, hs.refl _, h⟩

/-- What stands behind a line end in a thin list starts with a run, at the latest with the one
behind the list. -/
theorem exists_anyRun_cons_of_thin (hx : x = [] ∨ ∃ us, x = .anyRun :: us ∧ thin us = true) :
    ∃ us, x ++ [.anyRun] = .anyRun :: us ∧ thin x = true := by
  rcases hx with rfl | ⟨us, rfl, hus⟩
  · exact ⟨[], rfl, rfl⟩
  · exact ⟨us ++ [.anyRun], rfl, thin_anyRun_cons us ▸ hus⟩

/-- **Up to the end of a text, thin tokens before a run are spelled on the way from the last line
ends.** -/
theorem exists_spells_suffix (hs : KeepsLines same) : ∀ {x : List Token} {t : List Char},
    thin x = true → newlines x ≤ t.count '\n' →
    ∃ w v, t = w ++ v ∧ Spells same (· ≠ '\n') (x ++ [.anyRun]) v
  | [], t, _, _ => ⟨t, [], by simp, [], [], rfl, nofun, rfl⟩
  | .anyRun :: x, t, hx, hn => by
      rw [thin_anyRun_cons] at hx
      obtain ⟨w, v, rfl, h⟩ := exists_spells_suffix hs hx hn
      exact ⟨w, v, rfl, [], v, rfl, nofun, h⟩
  | .anyChar :: x, _, hx, _ => by simp [thin] at hx
  | .literal c :: x, t, hx, hn => by
      obtain ⟨rfl, hshape⟩ := thin_literal_cons.mp hx
      rw [newlines_literal_cons, if_pos rfl] at hn
      -- The tokens behind the line end start with a run, which takes in what is left of its line.
      obtain ⟨us, hus, hthin⟩ := exists_anyRun_cons_of_thin hshape
      obtain ⟨w, v, rfl, h⟩ := exists_spells_suffix hs hthin ((Nat.le_succ _).trans hn)
      have hcount := count_newline_of_spells hs h
      rw [List.count_append, hcount] at hn
      have hline : newlines (x ++ [.anyRun]) = newlines x := by simp [newlines]
      obtain ⟨a, b, rfl, hb⟩ := exists_last_newline (t := w) (by omega)
      have htail : Spells same (· ≠ '\n') (x ++ [.anyRun]) (b ++ v) := by
        rw [hus] at h ⊢
        exact h.append_of_anyRun hb
      exact ⟨a, '\n' :: (b ++ v), by simp, '\n', _, rfl, hs.refl _, htail⟩

end RecordFilter.Like
