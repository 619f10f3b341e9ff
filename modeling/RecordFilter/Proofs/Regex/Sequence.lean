import RecordFilter.Proofs.Like.Spelling
import RecordFilter.Proofs.Regex.Search
import RecordFilter.Proofs.Text.CaseFolding
import RecordFilter.Regex.Tree

/-!
# Proofs/Regex/Sequence — what a sequence of tokens finds

A match from place `i` to place `j` picks a segment of the text, and a sequence of expressions picks
segments that follow one another. For expressions that stand for tokens, between anchors or not, the
search finds exactly the texts in which the tokens spell something (`finds_tokens_iff`).
-/

namespace RecordFilter.Regex

open Like (Token Spells Found)

variable {t : List Char} {i j : Nat} {f : Flags}

/-! ## Segments -/

/-- The text `t` reads `s` from place `i` to place `j`. -/
def Segment (t : List Char) (i j : Nat) (s : List Char) : Prop :=
  ∃ pre post, t = pre ++ s ++ post ∧ pre.length = i ∧ j = i + s.length

/-- The empty text stands at every place. -/
@[simp] theorem segment_nil_iff : Segment t i j [] ↔ i ≤ t.length ∧ i = j := by
  constructor
  · rintro ⟨pre, post, rfl, rfl, rfl⟩
    simp
  · rintro ⟨hi, rfl⟩
    exact ⟨t.take i, t.drop i, by simp, List.length_take_of_le hi, rfl⟩

/-- **A text in two parts stands where its parts stand behind one another.** -/
@[simp] theorem segment_append_iff {a b : List Char} :
    Segment t i j (a ++ b) ↔ ∃ k, Segment t i k a ∧ Segment t k j b := by
  constructor
  · rintro ⟨pre, post, rfl, rfl, rfl⟩
    exact ⟨pre.length + a.length, ⟨pre, b ++ post, by simp, rfl, rfl⟩,
      ⟨pre ++ a, post, by simp, by simp, by simp [Nat.add_assoc]⟩⟩
  · rintro ⟨_, ⟨pre, post, rfl, rfl, rfl⟩, ⟨pre', post', ht, hk, rfl⟩⟩
    have hpre : pre ++ a = pre' :=
      List.append_inj_left (by simpa using ht) (by simpa using hk.symm)
    subst hpre
    exact ⟨pre, post', by simpa using ht, rfl, by simp [Nat.add_assoc]⟩

/-- One character stands where the text has it. -/
theorem segment_singleton_iff {c : Char} : Segment t i j [c] ↔ t[i]? = some c ∧ j = i + 1 := by
  constructor
  · rintro ⟨pre, post, rfl, rfl, rfl⟩
    simp
  · rintro ⟨hc, rfl⟩
    obtain ⟨hi, hc⟩ := List.getElem?_eq_some_iff.mp hc
    refine ⟨t.take i, t.drop (i + 1), ?_, by simp; omega, rfl⟩
    rw [List.append_assoc, List.singleton_append, ← hc, List.getElem_cons_drop,
      List.take_append_drop]

/-! ## Sequences of expressions -/

/-- The expressions match one behind the other. -/
def MatchesAll (t : List Char) : List Regex → Nat → Nat → Prop
  | [], i, j => i ≤ t.length ∧ i = j
  | r :: rs, i, j => ∃ k, r.Matches t i k ∧ MatchesAll t rs k j

/-- Matches go forward and stay in the text. -/
theorem MatchesAll.bounds : ∀ {rs : List Regex} {i j : Nat}, MatchesAll t rs i j →
    i ≤ j ∧ j ≤ t.length
  | [], _, _, ⟨hi, rfl⟩ => ⟨Nat.le_refl _, hi⟩
  | _ :: _, _, _, ⟨_, hk, h⟩ => ⟨hk.bounds.1.trans h.bounds.1, h.bounds.2⟩

/-- **Rows behind one another match texts behind one another.** -/
@[simp] theorem matchesAll_append_iff : ∀ {rs ss : List Regex} {i j : Nat},
    MatchesAll t (rs ++ ss) i j ↔ ∃ k, MatchesAll t rs i k ∧ MatchesAll t ss k j
  | [], ss, i, j => by
      constructor
      · intro h
        exact ⟨i, ⟨h.bounds.1.trans h.bounds.2, rfl⟩, h⟩
      · rintro ⟨k, ⟨_, rfl⟩, h⟩
        exact h
  | r :: rs, ss, i, j => by
      constructor
      · rintro ⟨k, hk, h⟩
        obtain ⟨l, hl, h⟩ := matchesAll_append_iff.mp h
        exact ⟨l, ⟨k, hk, hl⟩, h⟩
      · rintro ⟨l, ⟨k, hk, hl⟩, h⟩
        exact ⟨k, hk, matchesAll_append_iff.mpr ⟨l, hl, h⟩⟩

@[simp] theorem matchesAll_singleton_iff {r : Regex} : MatchesAll t [r] i j ↔ r.Matches t i j := by
  constructor
  · rintro ⟨k, hk, _, rfl⟩
    exact hk
  · exact fun h => ⟨j, h, h.bounds.2, rfl⟩

/-- A row as one tree matches what its items match in a row. -/
theorem matches_sequence_iff : ∀ {ts : List Tree} {i j : Nat},
    (Tree.sequence ts).regex.Matches t i j ↔ MatchesAll t (ts.map Tree.regex) i j
  | [], _, _ => Iff.rfl
  | [_], _, _ => matchesAll_singleton_iff.symm
  | _ :: _ :: _, _, _ => exists_congr fun _ => and_congr_right fun _ => matches_sequence_iff

theorem ordered_sequence : ∀ {ts : List Tree}, (∀ r ∈ ts, r.regex.Ordered) →
    (Tree.sequence ts).regex.Ordered
  | [], _ => trivial
  | [r], h => h r (by simp)
  | r :: s :: ts, h =>
      ⟨h r (by simp), ordered_sequence fun x hx => h x (List.mem_cons_of_mem r hx)⟩

/-- A sequence of trees without nesting stays far below the limit. -/
theorem height_sequence_le : ∀ {ts : List Tree}, (∀ r ∈ ts, r.height ≤ 1) →
    (Tree.sequence ts).height ≤ 2
  | [], _ => by simp [Tree.sequence, Tree.height]
  | [r], h => (h r (by simp)).trans (by omega)
  | r :: [s], h => by
      have hr := h r (by simp)
      have hs := h s (by simp)
      simp only [Tree.sequence, Tree.height]
      split <;> omega
  | r :: s :: s' :: ts, h => by
      have hr := h r (by simp)
      have hs : (Tree.sequence (s :: s' :: ts)).height ≤ 2 :=
        height_sequence_le fun x hx => h x (List.mem_cons_of_mem r hx)
      show max (r.height + 1) (Tree.sequence (s :: s' :: ts)).height ≤ 2
      omega

/-! ## Tokens as expressions -/

/-- What a token means under the flags. -/
def ofToken (f : Flags) : Token → Regex
  | .literal c => (Leaf.literal c).regex f
  | .anyChar => Leaf.dot.regex f
  | .anyRun => .rep (Leaf.dot.regex f) 0 none

/-- Which characters a plain character stands for under the flags. -/
def Flags.same (f : Flags) (c d : Char) : Prop :=
  (ClassTree.foldIf f (.single c)).contains d = true

/-- Which characters `.` stands for under the flags. -/
def Flags.wild (f : Flags) (d : Char) : Prop :=
  (CharClass.compl (Leaf.lineEnds f)).contains d = true

/-- A class matches one character of it. -/
theorem matches_chars_iff {s : CharClass} :
    (Regex.chars s).Matches t i j ↔ ∃ d, s.contains d = true ∧ Segment t i j [d] := by
  simp only [Matches, segment_singleton_iff]
  exact exists_congr fun d => by tauto

/-- A character of a class in front of a segment is the first of a longer one. -/
theorem exists_chars_segment_iff {s : CharClass} {L : List Char → Prop} :
    (∃ k, (Regex.chars s).Matches t i k ∧ ∃ u, L u ∧ Segment t k j u) ↔
      ∃ u, (∃ d rest, u = d :: rest ∧ s.contains d = true ∧ L rest) ∧ Segment t i j u := by
  constructor
  · rintro ⟨k, hk, u, hu, hrest⟩
    obtain ⟨d, hd, hseg⟩ := matches_chars_iff.mp hk
    exact ⟨d :: u, ⟨d, u, rfl, hd, hu⟩, segment_append_iff.mpr ⟨k, hseg, hrest⟩⟩
  · rintro ⟨_, ⟨d, u, rfl, hd, hu⟩, hseg⟩
    obtain ⟨k, hk, hrest⟩ := segment_append_iff (a := [d]).mp hseg
    exact ⟨k, matches_chars_iff.mpr ⟨d, hd, hk⟩, u, hu, hrest⟩

/-- A class taken several times matches as many characters of it. -/
theorem times_chars_iff {s : CharClass} : ∀ {n i j : Nat},
    i ≤ t.length ∧ Times ((Regex.chars s).Matches t) n i j ↔
      ∃ run, run.length = n ∧ (∀ d ∈ run, s.contains d = true) ∧ Segment t i j run
  | 0, i, j => by
      constructor
      · rintro ⟨hi, rfl⟩
        exact ⟨[], rfl, by simp, segment_nil_iff.mpr ⟨hi, rfl⟩⟩
      · rintro ⟨run, hrun, _, h⟩
        rw [List.length_eq_zero_iff.mp hrun] at h
        exact segment_nil_iff.mp h
  | n + 1, i, j => by
      constructor
      · rintro ⟨hi, k, hk, h⟩
        obtain ⟨d, hd, hseg⟩ := matches_chars_iff.mp hk
        obtain ⟨run, hn, hrun, hr⟩ := times_chars_iff.mp ⟨hk.bounds.2, h⟩
        refine ⟨d :: run, by simp [hn], ?_, segment_append_iff.mpr ⟨k, hseg, hr⟩⟩
        rintro x (_ | ⟨_, hx⟩)
        · exact hd
        · exact hrun x hx
      · rintro ⟨_ | ⟨d, run⟩, hn, hrun, h⟩
        · cases hn
        · obtain ⟨k, hd, hr⟩ := segment_append_iff (a := [d]).mp h
          have hk := matches_chars_iff.mpr ⟨d, hrun d (by simp), hd⟩
          have hrest := times_chars_iff.mpr
            ⟨run, Nat.succ.inj hn, fun x hx => hrun x (List.mem_cons_of_mem d hx), hr⟩
          exact ⟨hk.bounds.1.trans hk.bounds.2, k, hk, hrest.2⟩

/-- A class and a star match a run of characters of it, of any length. -/
theorem matches_star_iff {s : CharClass} :
    (Regex.rep (.chars s) 0 none).Matches t i j ↔
      ∃ run, (∀ d ∈ run, s.contains d = true) ∧ Segment t i j run := by
  constructor
  · rintro ⟨hi, n, _, _, h⟩
    obtain ⟨run, _, hrun, hseg⟩ := times_chars_iff.mp ⟨hi, h⟩
    exact ⟨run, hrun, hseg⟩
  · rintro ⟨run, hrun, hseg⟩
    obtain ⟨hi, h⟩ := times_chars_iff.mpr ⟨run, rfl, hrun, hseg⟩
    exact ⟨hi, run.length, Nat.zero_le _, nofun, h⟩

/-- **Expressions that stand for tokens match the segments that the tokens spell.** -/
theorem matchesAll_tokens_iff : ∀ {ts : List Token} {i j : Nat},
    MatchesAll t (ts.map (ofToken f)) i j ↔ ∃ s, Spells f.same f.wild ts s ∧ Segment t i j s
  | [], i, j => by
      constructor
      · exact fun h => ⟨[], rfl, segment_nil_iff.mpr h⟩
      · rintro ⟨_, rfl, h⟩
        exact segment_nil_iff.mp h
  | .literal c :: ts, i, j => by
      refine Iff.trans (exists_congr fun k => ?_) exists_chars_segment_iff
      exact and_congr_right fun _ => matchesAll_tokens_iff
  | .anyChar :: ts, i, j => by
      refine Iff.trans (exists_congr fun k => ?_) exists_chars_segment_iff
      exact and_congr_right fun _ => matchesAll_tokens_iff
  | .anyRun :: ts, i, j => by
      constructor
      · rintro ⟨k, hk, h⟩
        obtain ⟨run, hrun, hseg⟩ := matches_star_iff.mp hk
        obtain ⟨s, hs, hrest⟩ := matchesAll_tokens_iff.mp h
        exact ⟨run ++ s, ⟨run, s, rfl, hrun, hs⟩, segment_append_iff.mpr ⟨k, hseg, hrest⟩⟩
      · rintro ⟨_, ⟨run, s, rfl, hrun, hs⟩, hseg⟩
        obtain ⟨k, hk, hrest⟩ := segment_append_iff.mp hseg
        exact ⟨k, matches_star_iff.mpr ⟨run, hrun, hk⟩, matchesAll_tokens_iff.mpr ⟨s, hs, hrest⟩⟩

theorem ordered_ofToken (f : Flags) : ∀ tok : Token, (ofToken f tok).Ordered
  | .literal _ => trivial
  | .anyChar => trivial
  | .anyRun => ⟨trivial, nofun⟩

/-! ## Anchors -/

theorem matches_caret_iff (hf : f.multiLine = false) :
    (Leaf.caret.regex f).Matches t i j ↔ i ≤ t.length ∧ i = j ∧ i = 0 := by
  simp only [Leaf.regex, hf, Bool.false_eq_true, if_false, Matches, Assertion.holds, before?]
  constructor
  · rintro ⟨hi, h, rfl⟩
    split at h
    · next h0 => exact ⟨hi, rfl, h0⟩
    · have := List.getElem?_eq_none_iff.mp (of_decide_eq_true h)
      omega
  · rintro ⟨hi, rfl, rfl⟩
    exact ⟨hi, by simp, rfl⟩

theorem matches_dollar_iff (hf : f.multiLine = false) :
    (Leaf.dollar.regex f).Matches t i j ↔ i ≤ t.length ∧ i = j ∧ i = t.length := by
  simp only [Leaf.regex, hf, Bool.false_eq_true, if_false, Matches, Assertion.holds,
    decide_eq_true_eq, List.getElem?_eq_none_iff]
  omega

/-- An anchor, unless its end is open, holds the places that its leaf holds. -/
theorem matchesAll_anchor_iff {l : Leaf} {P : Nat → Prop}
    (hl : ∀ {i j}, (l.regex f).Matches t i j ↔ i ≤ t.length ∧ i = j ∧ P i) (isOpen : Bool) :
    MatchesAll t ((if isOpen then [] else [Tree.leaf f l]).map Tree.regex) i j ↔
      i ≤ t.length ∧ i = j ∧ (isOpen = false → P i) := by
  cases isOpen with
  | true => simp [MatchesAll]
  | false => exact (matchesAll_singleton_iff.trans hl).trans (by simp)

/-- The trees of a sequence between anchors; an open end has none. -/
def anchored (f : Flags) (openStart openEnd : Bool) (ts : List Tree) : List Tree :=
  (if openStart then [] else [.leaf f .caret]) ++ ts ++ if openEnd then [] else [.leaf f .dollar]

/-- What holds of both anchors and of the trees holds of all trees of the sequence. -/
theorem forall_mem_anchored {P : Tree → Prop} {os oe : Bool} {trees : List Tree}
    (hcaret : P (.leaf f .caret)) (hdollar : P (.leaf f .dollar)) (htrees : ∀ r ∈ trees, P r) :
    ∀ r ∈ anchored f os oe trees, P r := by
  intro r hr
  simp only [anchored, List.mem_append] at hr
  rcases hr with (hr | hr) | hr
  · split at hr <;> simp at hr
    exact hr ▸ hcaret
  · exact htrees r hr
  · split at hr <;> simp at hr
    exact hr ▸ hdollar

/-- **A search finds the trees between its anchors**, from the start and up to the end of the text
where these are not open. -/
theorem finds_anchored_iff (hf : f.multiLine = false) {os oe : Bool} {trees : List Tree} :
    (Tree.sequence (anchored f os oe trees)).regex.Finds t ↔
      ∃ i j, MatchesAll t (trees.map Tree.regex) i j ∧ (os = false → i = 0) ∧
        (oe = false → j = t.length) := by
  simp only [Finds, matches_sequence_iff, anchored, List.map_append, matchesAll_append_iff,
    matchesAll_anchor_iff (matches_caret_iff hf), matchesAll_anchor_iff (matches_dollar_iff hf)]
  constructor
  · rintro ⟨i, _, j, ⟨_, ⟨_, rfl, hos⟩, h⟩, _, rfl, hoe⟩
    exact ⟨i, j, h, hos, hoe⟩
  · rintro ⟨i, j, h, hos, hoe⟩
    have hbounds := h.bounds
    exact ⟨i, j, j, ⟨i, ⟨hbounds.1.trans hbounds.2, rfl, hos⟩, h⟩, hbounds.2, rfl, hoe⟩

/-- **Between anchors or open ends, a search finds what the tokens spell.** -/
theorem finds_tokens_iff (hf : f.multiLine = false) {os oe : Bool} {trees : List Tree}
    {ts : List Token} (htrees : trees.map Tree.regex = ts.map (ofToken f)) :
    (Tree.sequence (anchored f os oe trees)).regex.Finds t ↔
      Found os oe (Spells f.same f.wild ts) t := by
  simp only [finds_anchored_iff hf, htrees, matchesAll_tokens_iff]
  constructor
  · rintro ⟨i, j, ⟨s, hs, pre, post, rfl, rfl, rfl⟩, hos, hoe⟩
    refine ⟨pre, s, post, rfl, hs, fun h => List.length_eq_zero_iff.mp (hos h), fun h => ?_⟩
    have := hoe h
    simp only [List.length_append] at this
    exact List.length_eq_zero_iff.mp (by omega)
  · rintro ⟨pre, s, post, rfl, hs, hos, hoe⟩
    exact ⟨pre.length, pre.length + s.length, ⟨s, hs, pre, post, rfl, rfl, rfl⟩,
      fun h => by simp [hos h], fun h => by simp [hoe h]⟩

theorem ordered_anchored {os oe : Bool} {trees : List Tree}
    (htrees : ∀ r ∈ trees, r.regex.Ordered) :
    (Tree.sequence (anchored f os oe trees)).regex.Ordered :=
  ordered_sequence (forall_mem_anchored trivial trivial htrees)

theorem ordered_of_tokens {trees : List Tree} {ts : List Token}
    (htrees : trees.map Tree.regex = ts.map (ofToken f)) : ∀ r ∈ trees, r.regex.Ordered := by
  intro r hr
  obtain ⟨tok, _, htok⟩ := List.mem_map.mp (htrees ▸ List.mem_map_of_mem hr)
  exact htok ▸ ordered_ofToken f tok

/-! ## What characters stand for -/

/-- **Plain characters stand for themselves, or for what folds as they do.** -/
theorem same_iff (hf : f.unicode = true) (c d : Char) :
    f.same c d ↔ if f.caseInsensitive then Text.fold c = Text.fold d else c = d := by
  have hsingle : ∀ x, (CharClass.single c).contains x = true ↔ c = x := fun x => by
    simp only [CharClass.single, CharClass.contains, Bool.and_eq_true, decide_eq_true_eq]
    exact ⟨fun h => Char.le_antisymm h.1 h.2, fun h => h ▸ ⟨Char.le_refl c, Char.le_refl c⟩⟩
  unfold Flags.same ClassTree.foldIf
  split
  · simp only [CharClass.contains, Flags.alphabet, hf, if_true, Alphabet.variants, List.any_eq_true,
      hsingle]
    rw [← Text.mem_caseVariants_iff]
    exact ⟨fun ⟨x, hx, hcx⟩ => hcx ▸ hx, fun h => ⟨c, h, rfl⟩⟩
  · exact hsingle d

/-- The point stands for every character but the line feed, which it takes in only if the flags say
so. -/
theorem wild_iff (hf : f.crlf = false) (d : Char) : f.wild d ↔ f.dotAll = false → d ≠ '\n' := by
  unfold Flags.wild Leaf.lineEnds
  cases f.dotAll with
  | true => simp [CharClass.contains]
  | false =>
    simp only [hf, Bool.false_eq_true, if_false, CharClass.contains, CharClass.single]
    simp only [Bool.not_eq_true', Bool.and_eq_false_iff, decide_eq_false_iff_not, forall_const,
      ne_eq]
    rw [← not_and_or, not_iff_not]
    exact ⟨fun h => Char.le_antisymm h.2 h.1, fun h => h ▸ ⟨Char.le_refl _, Char.le_refl _⟩⟩

end RecordFilter.Regex
