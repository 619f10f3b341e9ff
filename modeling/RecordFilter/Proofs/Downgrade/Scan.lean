import Mathlib.Data.List.Induction
import RecordFilter.Downgrade.Scan
import RecordFilter.Proofs.Regex.Tokens

/-!
# Proofs/Downgrade/Scan — what stripping and the scan for wide classes tell about a text

A text is its body between the anchors that were stripped (`anchoredText_stripAnchors`). The scans
look at characters alone, escaped or not: a star counts as a repetition behind anything but a point
(`hasUnconvertibleRepetition_iff`), and two brackets on one line count as a wide class if there is
more than one character between them (`hasWideClass_iff`), whichever brackets of the line they are
(`hasWideClass_iff_onOneLine`).
-/

namespace RecordFilter.Downgrade

open Regex (anchoredText)

/-! ## Anchors -/

/-- What a closing anchor leaves, put back in front of it. -/
@[simp] theorem stripEnd_append (cs : List Char) :
    (stripEnd cs).1 ++ (if (stripEnd cs).2 then [] else ['$']) = cs := by
  rw [stripEnd]
  split
  · next initial h =>
    split
    · simp
    · simpa using (List.reverse_eq_iff.mp h).symm
  · simp

theorem stripAnchors_other {cs : List Char} (h : cs.head? ≠ some '^') :
    stripAnchors cs = ⟨true, (stripEnd cs).1, (stripEnd cs).2⟩ := by
  rw [stripAnchors.eq_def]
  rcases cs with _ | ⟨c, rest⟩
  · rfl
  · have hc : c ≠ '^' := fun hc => h (hc ▸ rfl)
    split
    · next heq => exact absurd (List.cons.inj heq).1 hc
    · rfl

/-- **A text is its body between its anchors.** -/
@[simp] theorem anchoredText_stripAnchors (cs : List Char) :
    anchoredText (stripAnchors cs).openStart (stripAnchors cs).openEnd (stripAnchors cs).body =
      cs := by
  by_cases h : cs.head? = some '^'
  · obtain ⟨rest, rfl⟩ := List.head?_eq_some_iff.mp h
    exact congrArg ('^' :: ·) (stripEnd_append rest)
  · rw [stripAnchors_other h]
    exact stripEnd_append cs

variable {since : Nat} {a b c cs : List Char}

/-- A backslash at the end is open if the one before it is not. -/
@[simp] theorem endsWithEscape_concat (cs : List Char) (c : Char) :
    endsWithEscape (cs ++ [c]) = (decide (c = '\\') && !endsWithEscape cs) := by
  rw [endsWithEscape, endsWithEscape, List.reverse_append, List.reverse_singleton,
    List.singleton_append, List.takeWhile_cons]
  by_cases hc : c = '\\'
  · simp only [hc, decide_true, if_true, List.length_cons, Bool.true_and]
    rw [← decide_not, decide_eq_decide]
    omega
  · simp [hc]

/-- What stands before a text without an open escape makes no difference. -/
theorem endsWithEscape_append (ha : endsWithEscape a = false) (b : List Char) :
    endsWithEscape (a ++ b) = endsWithEscape b := by
  induction b using List.reverseRecOn with
  | nil => rw [List.append_nil, ha]; rfl
  | append_singleton b c ih =>
    rw [← List.append_assoc, endsWithEscape_concat, endsWithEscape_concat, ih]

/-- A dollar behind a text that is not left in an escape is an anchor. -/
theorem stripEnd_concat (h : endsWithEscape cs = false) : stripEnd (cs ++ ['$']) = (cs, false) := by
  rw [stripEnd, List.reverse_append]
  simp [h]

/-- An escaped dollar is none. -/
theorem stripEnd_of_escaped (h : ∀ init, cs = init ++ ['$'] → endsWithEscape init = true) :
    stripEnd cs = (cs, true) := by
  rw [stripEnd]
  split
  · next initial heq =>
    rw [if_pos (h initial.reverse (by simpa using List.reverse_eq_iff.mp heq))]
  · rfl

/-! ## Repetition -/

/-- **A star counts as a repetition wherever anything but a point stands before it.** -/
theorem hasUnconvertibleRepetition_iff : ∀ {cs : List Char},
    hasUnconvertibleRepetition cs = true ↔ ∃ a x b, cs = a ++ x :: '*' :: b ∧ x ≠ '.'
  | [] => by simp [hasUnconvertibleRepetition]
  | [x] => by
      refine iff_of_false (by simp [hasUnconvertibleRepetition]) ?_
      rintro ⟨a, y, b, h, -⟩
      have hlength := congrArg List.length h
      simp at hlength
      omega
  | x :: y :: rest => by
      rw [hasUnconvertibleRepetition, Bool.or_eq_true, Bool.and_eq_true, decide_eq_true_eq,
        decide_eq_true_eq, hasUnconvertibleRepetition_iff]
      constructor
      · rintro (⟨rfl, hx⟩ | ⟨a, z, b, heq, hz⟩)
        · exact ⟨[], x, rest, rfl, hx⟩
        · exact ⟨x :: a, z, b, congrArg (x :: ·) heq, hz⟩
      · rintro ⟨_ | ⟨w, a⟩, z, b, heq, hz⟩
        · simp only [List.nil_append, List.cons.injEq] at heq
          exact .inl ⟨heq.2.1, heq.1 ▸ hz⟩
        · rw [List.cons_append, List.cons.injEq] at heq
          exact .inr ⟨a, z, b, heq.2, hz⟩

/-! ## Wide classes -/

/-- A closing bracket is too far from an opening one on its line. -/
theorem hasWideClassFrom_some (hb : 3 ≤ since + b.length) (hn : '\n' ∉ b) :
    hasWideClassFrom (some since) (b ++ ']' :: c) = true := by
  induction b generalizing since with
  | nil => simpa [hasWideClassFrom] using Or.inl hb
  | cons x b ih =>
    obtain ⟨hx, hn⟩ := List.ne_and_not_mem_of_not_mem_cons hn
    rw [List.cons_append, hasWideClassFrom, if_neg (Ne.symm hx)]
    exact Bool.or_eq_true_iff.mpr (.inr (ih (by simp at hb; omega) hn))

/-- The scan finds a wide class wherever it stands. -/
theorem hasWideClassFrom_append (hb : 2 ≤ b.length) (hn : '\n' ∉ b) : ∀ (a : List Char)
    (since? : Option Nat), hasWideClassFrom since? (a ++ '[' :: (b ++ ']' :: c)) = true
  | [], none => hasWideClassFrom_some (by omega) hn
  | [], some since => by
      have : hasWideClassFrom (some (since + 1)) (b ++ ']' :: c) = true :=
        hasWideClassFrom_some (by omega) hn
      simpa [hasWideClassFrom] using this
  | x :: a, none => hasWideClassFrom_append hb hn a _
  | x :: a, some since => by
      rw [List.cons_append, hasWideClassFrom]
      split
      · exact hasWideClassFrom_append hb hn a none
      · exact Bool.or_eq_true_iff.mpr (.inr (hasWideClassFrom_append hb hn a _))

/-- The scan has found brackets with two characters between them, or a closing bracket that is too
far from the opening one it had seen before. -/
theorem exists_of_hasWideClassFrom : ∀ {cs : List Char} {since? : Option Nat},
    hasWideClassFrom since? cs = true →
      (∃ a b c, cs = a ++ '[' :: (b ++ ']' :: c) ∧ 2 ≤ b.length ∧ '\n' ∉ b) ∨
        ∃ since b c, since? = some since ∧ cs = b ++ ']' :: c ∧ 3 ≤ since + b.length ∧ '\n' ∉ b
  | [], _, h => by cases h
  | x :: rest, none, h => by
      rw [hasWideClassFrom] at h
      rcases exists_of_hasWideClassFrom h with ⟨a, b, c, rfl, hbc⟩ | ⟨n, b, c, hs, rfl, hb, hn⟩
      · exact .inl ⟨x :: a, b, c, rfl, hbc⟩
      · split at hs
        · next hx =>
          obtain rfl := Option.some.inj hs
          exact .inl ⟨[], b, c, hx ▸ rfl, by omega, hn⟩
        · cases hs
  | x :: rest, some since, h => by
      rw [hasWideClassFrom] at h
      split at h
      · rcases exists_of_hasWideClassFrom h with ⟨a, b, c, rfl, hbc⟩ | ⟨_, _, _, hs, _⟩
        · exact .inl ⟨x :: a, b, c, rfl, hbc⟩
        · cases hs
      · next hx =>
        rw [Bool.or_eq_true, Bool.and_eq_true, decide_eq_true_eq, decide_eq_true_eq] at h
        rcases h with ⟨rfl, h⟩ | h
        · exact .inr ⟨since, [], rest, rfl, rfl, h, List.not_mem_nil⟩
        · rcases exists_of_hasWideClassFrom h with ⟨a, b, c, rfl, hbc⟩ | ⟨_, b, c, hs, rfl, hb, hn⟩
          · exact .inl ⟨x :: a, b, c, rfl, hbc⟩
          · obtain rfl := Option.some.inj hs
            refine .inr ⟨since, x :: b, c, rfl, rfl, by rw [List.length_cons]; omega, ?_⟩
            exact List.not_mem_cons_of_ne_of_not_mem (Ne.symm hx) hn

/-- **Wide classes are brackets on one line with two characters or more between them.** -/
theorem hasWideClass_iff : hasWideClass cs = true ↔
    ∃ a b c, cs = a ++ '[' :: (b ++ ']' :: c) ∧ 2 ≤ b.length ∧ '\n' ∉ b := by
  constructor
  · intro h
    rcases exists_of_hasWideClassFrom h with h | ⟨_, _, _, hs, _⟩
    · exact h
    · cases hs
  · rintro ⟨a, b, c, rfl, hb, hn⟩
    exact hasWideClassFrom_append hb hn a none

/-- **Where no class is wide, a line ends between brackets with two characters between them.** -/
theorem newline_mem_of_not_hasWideClass (h : hasWideClass (a ++ '[' :: (b ++ ']' :: c)) = false)
    (hb : 2 ≤ b.length) : '\n' ∈ b := by
  by_contra hn
  exact absurd (hasWideClassFrom_append hb hn a none) (by simpa [hasWideClass] using h)

/-- A bracket opens at `i`, and one closes at `j` behind it, on the same line. -/
structure OnOneLine (cs : List Char) (i j : Nat) : Prop where
  lt : i < j
  opening : cs[i]? = some '['
  closing : cs[j]? = some ']'
  not_newline : ∀ k, i < k → k < j → cs[k]? ≠ some '\n'

theorem exists_append_of_getElem? {i : Nat} {x : Char} (h : cs[i]? = some x) :
    ∃ a c, cs = a ++ x :: c ∧ a.length = i := by
  obtain ⟨hi, rfl⟩ := List.getElem?_eq_some_iff.mp h
  refine ⟨cs.take i, cs.drop (i + 1), ?_, List.length_take_of_le (Nat.le_of_lt hi)⟩
  rw [← List.drop_eq_getElem_cons hi, List.take_append_drop]

theorem getElem?_append_cons (a : List Char) (x : Char) (cs : List Char) (n : Nat) :
    (a ++ x :: cs)[a.length + 1 + n]? = cs[n]? := by
  rw [List.getElem?_append_right (by omega), Nat.add_assoc, Nat.add_sub_cancel_left, Nat.add_comm 1,
    List.getElem?_cons_succ]

/-- The brackets cut the text in three, of which the middle part has no line end. -/
theorem OnOneLine.exists_eq {i j : Nat} (h : OnOneLine cs i j) : ∃ a b c,
    cs = a ++ '[' :: (b ++ ']' :: c) ∧ a.length = i ∧ i + 1 + b.length = j ∧ '\n' ∉ b := by
  obtain ⟨a, rest, rfl, rfl⟩ := exists_append_of_getElem? h.opening
  obtain ⟨n, rfl⟩ := Nat.exists_eq_add_of_le (Nat.succ_le_of_lt h.lt)
  have hclosing := h.closing
  rw [Nat.succ_eq_add_one, getElem?_append_cons] at hclosing
  obtain ⟨b, c, rfl, rfl⟩ := exists_append_of_getElem? hclosing
  refine ⟨a, b, c, rfl, rfl, rfl, fun hmem => ?_⟩
  obtain ⟨m, hm, hnewline⟩ := List.getElem_of_mem hmem
  refine h.not_newline (a.length + 1 + m) (by omega) (by omega) ?_
  rw [getElem?_append_cons, List.getElem?_append_left hm, List.getElem?_eq_getElem hm, hnewline]

theorem onOneLine_append (a c : List Char) (hn : '\n' ∉ b) :
    OnOneLine (a ++ '[' :: (b ++ ']' :: c)) a.length (a.length + 1 + b.length) where
  lt := by omega
  opening := by simp
  closing := by rw [getElem?_append_cons]; simp
  not_newline k hi hj hk := by
    obtain ⟨m, rfl⟩ := Nat.exists_eq_add_of_le (Nat.succ_le_of_lt hi)
    rw [Nat.succ_eq_add_one, getElem?_append_cons, List.getElem?_append_left (by omega)] at hk
    exact hn (List.mem_of_getElem? hk)

/-- **The scan finds every wide span**, though it keeps only the first opening bracket of a line: it
answers yes exactly if on one line a bracket closes three characters or more behind one that opens.
So where it answers no, every closing bracket stands at most two characters behind each opening one
before it on its line. -/
theorem hasWideClass_iff_onOneLine (cs : List Char) :
    (hasWideClass cs = true ↔ ∃ i j, OnOneLine cs i j ∧ i + 3 ≤ j) ∧
      (hasWideClass cs = false → ∀ i j, OnOneLine cs i j → j ≤ i + 2) := by
  have hwide : hasWideClass cs = true ↔ ∃ i j, OnOneLine cs i j ∧ i + 3 ≤ j := by
    rw [hasWideClass_iff]
    constructor
    · rintro ⟨a, b, c, rfl, hb, hn⟩
      exact ⟨_, _, onOneLine_append a c hn, by omega⟩
    · rintro ⟨i, j, h, hij⟩
      obtain ⟨a, b, c, rfl, rfl, rfl, hn⟩ := h.exists_eq
      exact ⟨a, b, c, rfl, by omega, hn⟩
  refine ⟨hwide, fun hno i j h => ?_⟩
  by_contra hij
  rw [hwide.mpr ⟨i, j, h, by omega⟩] at hno
  cases hno

/-- Brackets that close before they open, around one character, and on different lines. -/
theorem hasWideClass_iff_onOneLine_lines :
    hasWideClass "]a[b]\n[cd\ne]".toList = false ∧ OnOneLine "]a[b]\n[cd\ne]".toList 2 4 ∧
      ∀ i j, OnOneLine "]a[b]\n[cd\ne]".toList i j → j ≤ i + 2 := by
  have hno : hasWideClass "]a[b]\n[cd\ne]".toList = false := by decide
  exact ⟨hno, onOneLine_append (b := ['b']) [']', 'a'] "\n[cd\ne]".toList (by decide),
    (hasWideClass_iff_onOneLine _).2 hno⟩

end RecordFilter.Downgrade
