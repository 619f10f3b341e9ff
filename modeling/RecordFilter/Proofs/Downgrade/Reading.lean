import RecordFilter.Downgrade.Conversion
import RecordFilter.Proofs.Downgrade.Tokenized
import RecordFilter.Proofs.Regex.Reader

/-!
# Proofs/Downgrade/Reading — how the parser reads a text with tokens

Brackets that are not plain start a class that ends behind some later closing bracket, and goes on
past the end of a line, as it would be too wide otherwise. Behind it the parser is in step with the
tokens again, one closing bracket off at most (`Tokenized.behind`). So whatever the parser reads is
a row of characters and runs, never with more characters than the tokens have, and with fewer if
some brackets are not plain (`readsOn_of_tokenized`). With plain brackets the row is item by item
what the text spells; otherwise a class of more than one character stands in it (`Row`).
-/

namespace RecordFilter.Downgrade

open Like (Token width width_le_cons width_cons_of_ne)
open Regex (Tree Flags)
open Regex.State (Adds reading run)

/-- A row of trees of which `n` match one character each and the others runs. -/
inductive Spans : List Tree → Nat → Prop
  | nil : Spans [] 0
  | one {t ts n s} : t.regex = .chars s → Spans ts n → Spans (t :: ts) (n + 1)
  | run {t ts n s} : t.regex = .rep (.chars s) 0 none → Spans ts n → Spans (t :: ts) n

/-- How a single item is spelled, and what the parser makes of it: a character as it is, behind a
backslash or alone in brackets, a point, or a run of points. -/
inductive Item (f : Flags) : List Char → Tree → Prop
  | verbatim (c : Char) : Item f [c] (.leaf f (.literal c))
  | escaped (c : Char) : Item f ['\\', c] (.leaf f (.literal c))
  | bracketed (c : Char) : Item f ['[', c, ']'] (.leaf f (.bracket false (.literal c)))
  | dot : Item f ['.'] (.leaf f .dot)
  | dotStar : Item f ['.', '*'] (.rep (.leaf f .dot) 0 none (!f.swapGreed))

/-- The tree is an item or a bracket class. -/
def IsPart (f : Flags) (t : Tree) : Prop :=
  (∃ w, Item f w t) ∨ ∃ negated inside, t = .leaf f (.bracket negated inside)

variable {c : Char} {cs rest mid post : List Char} {ts us : List Token} {f : Flags}

/-- The trees are what `cs` spells item by item if its brackets are plain. Otherwise there is a
class among them that is not just a character. -/
structure Row (f : Flags) (cs : List Char) (trees : List Tree) : Prop where
  spelled : plainBrackets cs = true → ∃ ws, cs = ws.flatten ∧ List.Forall₂ (Item f) ws trees
  isPart : ∀ t ∈ trees, IsPart f t
  exists_class : plainBrackets cs = false → ∃ negated inside,
    .leaf f (.bracket negated inside) ∈ trees ∧ ∀ d, inside ≠ .literal d

theorem Row.nil : Row f [] [] := ⟨fun _ => ⟨[], rfl, .nil⟩, nofun, nofun⟩

/-- An item in front is spelled in front. -/
theorem Row.cons {w : List Char} {t : Tree} {trees : List Tree} (h : Row f rest trees)
    (ht : Item f w t) (hw : plainBrackets (w ++ rest) = plainBrackets rest) :
    Row f (w ++ rest) (t :: trees) where
  spelled hplain := by
    obtain ⟨ws, rfl, hws⟩ := h.spelled (hw ▸ hplain)
    exact ⟨w :: ws, rfl, .cons ht hws⟩
  isPart := List.forall_mem_cons.mpr ⟨.inl ⟨w, ht⟩, h.isPart⟩
  exists_class hplain := by
    obtain ⟨negated, inside, hmem, hinside⟩ := h.exists_class (hw ▸ hplain)
    exact ⟨negated, inside, List.mem_cons_of_mem t hmem, hinside⟩

/-! ## Behind a closing bracket -/

/-- A character behind `mid` stands in the first of two texts or in the second. -/
theorem mem_left_or_right {w : List Char} (h : w ++ rest = mid ++ c :: post) :
    (∃ v, w = mid ++ c :: v ∧ post = v ++ rest) ∨
      ∃ mid', mid = w ++ mid' ∧ rest = mid' ++ c :: post := by
  rcases List.append_eq_append_iff.mp h with ⟨mid', rfl, hrest⟩ | ⟨_ | ⟨d, v⟩, rfl, hpost⟩
  · exact .inr ⟨mid', rfl, hrest⟩
  · exact .inr ⟨[], by simp, hpost.symm⟩
  · obtain ⟨rfl, rfl⟩ := List.cons.inj hpost
    exact .inl ⟨v, rfl, rfl⟩

/-- Behind `mid` and a closing bracket, `post` has tokens again, at the latest after one more
bracket. They are among `ts`, and narrower if a line ends in `mid`. -/
def Behind (mid post : List Char) (ts : List Token) : Prop :=
  ∃ skipped rest us, post = skipped ++ rest ∧ (skipped = [] ∨ skipped = [']']) ∧
    Tokenized rest us ∧ us ⊆ ts ∧
    width us + skipped.length + (if '\n' ∈ mid then 1 else 0) ≤ width ts

/-- A token in front of everything changes nothing; if it is the end of a line, it counts. -/
theorem Behind.append {tok : Token} (h : Behind mid post us) (w : List Char)
    (hw : '\n' ∈ w → width (tok :: us) = width us + 1) : Behind (w ++ mid) post (tok :: us) := by
  obtain ⟨skipped, rest, us', hpost, hskip, hrest, hsub, hle⟩ := h
  refine ⟨skipped, rest, us', hpost, hskip, hrest, List.subset_cons_of_subset tok hsub, ?_⟩
  have hcons := width_le_cons tok us
  by_cases hline : '\n' ∈ w
  · have hw := hw hline
    rw [if_pos (List.mem_append_left _ hline)]
    split at hle <;> omega
  · simp only [List.mem_append, hline, false_or]
    omega

/-- A token without a closing bracket is passed by. -/
theorem Behind.of_not_mem {tok : Token} {w : List Char} (hmem : ']' ∉ w)
    (hw : '\n' ∈ w → width (tok :: us) = width us + 1)
    (ih : ∀ {mid : List Char}, rest = mid ++ ']' :: post → Behind mid post us)
    (heq : w ++ rest = mid ++ ']' :: post) : Behind mid post (tok :: us) := by
  rcases mem_left_or_right heq with ⟨v, rfl, -⟩ | ⟨mid', rfl, hrest⟩
  · exact absurd (by simp) hmem
  · exact (ih hrest).append w hw

/-- **A text with tokens has tokens behind each of its closing brackets.** -/
theorem Tokenized.behind (h : Tokenized cs ts) (heq : cs = mid ++ ']' :: post) :
    Behind mid post ts := by
  induction h generalizing mid with
  | nil => simp at heq
  | @bracket c rest us hc h ih =>
    rcases mem_left_or_right (w := ['[', c, ']']) heq with ⟨v, hw, rfl⟩ | ⟨mid', rfl, hrest⟩
    · rcases mid with _ | ⟨x, _ | ⟨y, _ | ⟨z, mid⟩⟩⟩ <;> simp at hw
      · -- The brackets stand around a closing one, which is the one in question.
        obtain ⟨rfl, rfl, rfl⟩ := hw
        exact ⟨[']'], rest, us, rfl, .inr rfl, h, List.subset_cons_self .., by simp [width]⟩
      · obtain ⟨rfl, rfl, rfl⟩ := hw
        exact ⟨[], rest, us, rfl, .inl rfl, h, List.subset_cons_self .., by simp [width, hc.symm]⟩
    · exact (ih hrest).append ['[', c, ']'] (by simp [hc.symm])
  | @escape c rest us hc h ih =>
    have hline : '\n' ≠ c := fun hline => absurd (hline ▸ hc) (by decide)
    rcases mem_left_or_right (w := ['\\', c]) heq with ⟨v, hw, rfl⟩ | ⟨mid', rfl, hrest⟩
    · rcases mid with _ | ⟨x, _ | ⟨y, mid⟩⟩ <;> simp at hw
      obtain ⟨rfl, rfl, rfl⟩ := hw
      exact ⟨[], rest, us, rfl, .inl rfl, h, List.subset_cons_self .., by simp [width]⟩
    · exact (ih hrest).append ['\\', c] (by simp [hline])
  | dotStar h ih => exact .of_not_mem (w := ['.', '*']) (by decide) (by simp) ih heq
  | dot h ih => exact .of_not_mem (w := ['.']) (by decide) (by simp) ih heq
  | @plain c rest us hc hdot h ih =>
    have hbracket : ']' ∉ [c] := by simpa using (ne_of_not_isOperator hc rfl).symm
    exact .of_not_mem hbracket (fun _ => rfl) ih heq

/-! ## Brackets that are not plain -/

open Regex.Reader in
/-- Behind an item that is a character, a part has read that character and no more, or a range. -/
theorem classPart_of_classItem_literal (hf : f.Plain) {d : Char} {behind : List Char}
    {s : Regex.ClassTree} (hitem : classItem f cs = .ok (.literal d, behind))
    (h : classPart f cs = .ok (s, rest)) : rest = behind ∨ ∃ low high, s = .range low high := by
  obtain ⟨_, hitem', h⟩ := Regex.bind_eq_ok_iff.mp h
  cases hitem.symm.trans hitem'
  simp only [skip_eq hf] at h
  split at h
  · split at h
    · obtain ⟨_, _, h⟩ := Regex.bind_eq_ok_iff.mp h
      obtain ⟨_, _, h⟩ := Regex.bind_eq_ok_iff.mp h
      obtain ⟨_, _, h⟩ := Regex.bind_eq_ok_iff.mp h
      split at h
      · cases h
        exact .inr ⟨_, _, rfl⟩
      · cases h
    · obtain ⟨_, _, h⟩ := Regex.bind_eq_ok_iff.mp h
      cases h
      exact .inl rfl
  · obtain ⟨_, _, h⟩ := Regex.bind_eq_ok_iff.mp h
    cases h
    exact .inl rfl

open Regex.Reader in
/-- **Brackets that are not plain open a class that takes their closing bracket in**, and goes on
behind it. -/
theorem exists_classRest_of_opensMore (hf : f.Plain) (hc : opensMore c = true) {l : Regex.Leaf}
    (h : bracketClass f (c :: ']' :: rest) = .ok (l, post)) :
    ∃ fuel b outer rest' b', rest' <:+ rest ∧
      (outer ≠ [] ∨ b.IsMore ∨ b.parts ≠ [] ∧ rest' = rest) ∧
      classRest f fuel b outer rest' = .ok (b', post) ∧ l = .bracket b'.negated b'.inside := by
  obtain ⟨⟨b, behind⟩, hopen, h⟩ := Regex.bind_eq_ok_iff.mp h
  obtain ⟨⟨b', _⟩, hclass, h⟩ := Regex.bind_eq_ok_iff.mp h
  cases h
  simp only [opensMore, Bool.or_eq_true, decide_eq_true_eq] at hc
  obtain (rfl | rfl) | rfl := hc
  · have hcaret : openBracket f ('^' :: ']' :: rest) =
        .ok (⟨true, [.literal ']'], none⟩, rest) := by
      simp [openBracket, skip_eq hf, takeWhile, takeSpaced, hf.freeSpacing, hf.unicode]
    cases hcaret.symm.trans hopen
    exact ⟨_, _, _, _, b', List.suffix_refl _, .inr (.inr ⟨by simp, rfl⟩), hclass, rfl⟩
  · cases (openBracket_other hf (by decide) (']' :: rest)).symm.trans hopen
    rw [classRest, skip_eq hf] at hclass
    obtain ⟨⟨part, rest'⟩, hpart, hclass⟩ := Regex.bind_eq_ok_iff.mp hclass
    have hitem : classItem f ('\\' :: ']' :: rest) = .ok (.literal ']', rest) :=
      escape_of_isEscapable (f := f) (c := ']') (by decide) rest
    refine ⟨_, _, _, rest', b', classPart_suffix_of_classItem hitem hpart, .inr ?_, hclass, rfl⟩
    rcases classPart_of_classItem_literal hf hitem hpart with heq | ⟨low, high, rfl⟩
    · exact .inr ⟨List.cons_ne_nil _ _, heq⟩
    · exact .inl (Bracket.isMore_add fun _ h => by cases h)
  · cases (openBracket_other hf (by decide) (']' :: rest)).symm.trans hopen
    rw [classRest, skip_eq hf] at hclass
    obtain ⟨⟨inner, rest'⟩, hinner, hclass⟩ := Regex.bind_eq_ok_iff.mp hclass
    cases (openBracket_bracket hf rest).symm.trans hinner
    exact ⟨_, _, _, _, b', List.suffix_refl _, .inl (List.cons_ne_nil _ _), hclass, rfl⟩

/-- The class ends behind a bracket that comes later. -/
theorem bracketClass_suffix_of_opensMore (hf : f.Plain) (hc : opensMore c = true) {l : Regex.Leaf}
    (h : Regex.Reader.bracketClass f (c :: ']' :: rest) = .ok (l, post)) :
    ']' :: post <:+ rest := by
  obtain ⟨_, _, _, _, _, hsuffix, -, hclass, -⟩ := exists_classRest_of_opensMore hf hc h
  exact (Regex.Reader.classRest_suffix hclass).trans hsuffix

/-- The class is more than a character, unless one more closing bracket ends it at once. -/
theorem exists_inside_of_opensMore (hf : f.Plain) (hc : opensMore c = true) {l : Regex.Leaf}
    (h : Regex.Reader.bracketClass f (c :: ']' :: rest) = .ok (l, post))
    (hrest : rest.head? ≠ some ']') :
    ∃ negated inside, l = .bracket negated inside ∧ ∀ d, inside ≠ .literal d := by
  obtain ⟨_, _, _, _, b', -, hmore, hclass, hl⟩ := exists_classRest_of_opensMore hf hc h
  have hmore' := Regex.Reader.classRest_isMore
    (hmore.imp_right (Or.imp_right fun ⟨hparts, heq⟩ =>
      ⟨hparts, by rwa [Regex.Reader.skip_eq hf, heq]⟩)) hclass
  exact ⟨_, _, hl, hmore'.inside_ne⟩

/-- A run that meets an opening bracket reads a class. -/
theorem exists_class_of_run (hf : f.Plain) {fuel : Nat} {items : List Tree} {tree : Tree}
    (h : run (fuel + 1) (reading f items) ('[' :: cs) = .ok tree) :
    ∃ l s post, l.regex f = .chars s ∧ Regex.Reader.bracketClass f cs = .ok (l, post) ∧
      run fuel (reading f (.leaf f l :: items)) post = .ok tree := by
  rw [run] at h
  obtain ⟨⟨st, post⟩, hstep, h⟩ := Regex.bind_eq_ok_iff.mp h
  simp only [Regex.State.step, reading, hf.freeSpacing, Bool.false_and, Bool.false_eq_true,
    if_false] at hstep
  obtain ⟨⟨l, post'⟩, hclass, hstep⟩ := Regex.bind_eq_ok_iff.mp hstep
  cases hstep
  have hl : ∃ s, l.regex f = .chars s := by
    obtain ⟨_, _, hclass⟩ := Regex.bind_eq_ok_iff.mp hclass
    obtain ⟨_, _, hclass⟩ := Regex.bind_eq_ok_iff.mp hclass
    cases hclass
    exact ⟨_, rfl⟩
  obtain ⟨s, hs⟩ := hl
  exact ⟨l, s, _, hs, hclass, h⟩

/-! ## Reading on -/

theorem Spans.cons {t : Tree} {ts : List Tree} {k n : Nat} (h : Spans [t] k) (hs : Spans ts n) :
    Spans (t :: ts) (k + n) := by
  cases h with
  | one ht h =>
    cases h
    exact Nat.add_comm n 1 ▸ .one ht hs
  | run ht h =>
    cases h
    exact (Nat.zero_add n).symm ▸ .run ht hs

/-- On no line of the text do brackets stand with two characters or more between them. -/
def Narrow (cs : List Char) : Prop :=
  ∀ a b c, cs = a ++ '[' :: (b ++ ']' :: c) → 2 ≤ b.length → '\n' ∈ b

theorem Narrow.of_append {pre : List Char} (h : Narrow (pre ++ cs)) : Narrow cs :=
  fun a b c heq hb => h (pre ++ a) b c (by rw [heq, List.append_assoc]) hb

/-- What reading `cs` and a closing anchor, if there is one, makes of the items read before. There
are runs only where the tokens have some. -/
def ReadsTo (f : Flags) (openEnd : Bool) (items : List Tree) (cs : List Char) (ts : List Token)
    (tree : Tree) : Prop :=
  ∃ trees n, Spans trees n ∧ n ≤ width ts ∧ (.anyRun ∉ ts → trees.length = n) ∧
    (plainBrackets cs = false → n < width ts ∧ '\n' ∈ cs) ∧ Row f cs trees ∧
    tree = .sequence (items.reverse ++ trees ++ if openEnd then [] else [.leaf f .dollar])

/-- The text of a closing anchor, unless the end is open. -/
def closing (openEnd : Bool) : List Char := if openEnd then [] else ['$']

/-- What the parser makes of `cs` and a closing anchor is `tree`, whatever it has read before. -/
def ReadsOn (f : Flags) (openEnd : Bool) (cs : List Char) (ts : List Token) (tree : Tree) : Prop :=
  ∀ items fuel, (cs ++ closing openEnd).length ≤ fuel →
    run fuel (reading f items) (cs ++ closing openEnd) = .ok tree →
    ReadsTo f openEnd items cs ts tree

variable {oe : Bool} {items : List Tree} {tree : Tree}

/-- What a tokenized text with its closing anchor starts with is no operator but the anchor. -/
theorem Tokenized.head?_append_closing_ne (h : Tokenized rest us) (hc : isOperator c = true)
    (hbracket : c ≠ '[') (hescape : c ≠ '\\') (hdollar : c ≠ '$') :
    (rest ++ closing oe).head? ≠ some c := by
  have hhead := h.head?_ne hc hbracket hescape
  cases rest with
  | nil => cases oe <;> simp [closing, hdollar.symm]
  | cons d rest => exact hhead

/-- A run goes on behind what it adds. -/
theorem exists_run_of_adds {w : List Char} {t : Tree} {fuel : Nat} (hadds : Adds f w rest [t])
    (hfuel : (w ++ rest).length ≤ fuel)
    (hrun : run fuel (reading f items) (w ++ rest) = .ok tree) :
    ∃ fuel', rest.length ≤ fuel' ∧ run fuel' (reading f (t :: items)) rest = .ok tree := by
  obtain ⟨fuel', hfuel', heq⟩ := hadds fuel items hfuel
  exact ⟨fuel', hfuel', heq.symm.trans hrun⟩

/-- A token in front that the parser reads as such. -/
theorem ReadsOn.cons {w : List Char} {t : Tree} {tok : Token} {k : Nat}
    (h : ReadsOn f oe rest us tree) (hitem : Item f w t)
    (hadds : Adds f w (rest ++ closing oe) [t]) (ht : Spans [t] k)
    (hk : width (tok :: us) = k + width us)
    (hw : plainBrackets (w ++ rest) = plainBrackets rest) :
    ReadsOn f oe (w ++ rest) (tok :: us) tree := by
  intro items fuel hfuel hrun
  rw [List.append_assoc] at hfuel hrun
  obtain ⟨fuel', hfuel', hrun'⟩ := exists_run_of_adds hadds hfuel hrun
  obtain ⟨trees, n, hspans, hn, hruns, hplain, hrow, rfl⟩ := h _ fuel' hfuel' hrun'
  refine ⟨t :: trees, k + n, ht.cons hspans, by omega, fun hrun => ?_, fun hp => ?_,
    hrow.cons hitem hw, by simp⟩
  · obtain ⟨htok, hus⟩ := List.ne_and_not_mem_of_not_mem_cons hrun
    have hone := width_cons_of_ne htok.symm us
    rw [List.length_cons, hruns hus]
    omega
  · obtain ⟨hlt, hline⟩ := hplain (hw ▸ hp)
    exact ⟨by omega, List.mem_append_right _ hline⟩

theorem readsOn_nil (hf : f.Plain) : ReadsOn f oe [] [] tree := by
  intro items fuel hfuel hrun
  refine ⟨[], 0, .nil, Nat.le_refl 0, fun _ => rfl, nofun, .nil, ?_⟩
  have hfinish : ∀ {fuel items}, run fuel (reading f items) [] = .ok tree →
      tree = .sequence items.reverse := fun {fuel _} h => by
    cases fuel <;> exact (Except.ok.inj h).symm
  cases oe with
  | true => simpa using hfinish hrun
  | false =>
    have hadds := Regex.State.adds_dollar hf []
    obtain ⟨fuel', -, hrun⟩ := exists_run_of_adds (w := ['$']) hadds hfuel hrun
    simpa using hfinish hrun

/-- What ends behind a closing bracket ends in front of the closing anchor. -/
theorem exists_of_suffix_closing (h : ']' :: post <:+ rest ++ closing oe) :
    ∃ mid behind, rest = mid ++ ']' :: behind ∧ post = behind ++ closing oe := by
  have hclosing : ']' ∉ closing oe := by cases oe <;> decide
  obtain ⟨mid, hmid⟩ := h
  rcases mem_left_or_right hmid.symm with ⟨behind, hrest, hpost⟩ | ⟨mid', -, hmem⟩
  · exact ⟨mid, behind, hrest, hpost⟩
  · exact absurd (hmem ▸ by simp) hclosing

/-- Behind a class the parser is in step with the tokens, or reads one closing bracket to be so. -/
theorem exists_spans_of_skipped (hf : f.Plain) {skipped : List Char}
    (hskip : skipped = [] ∨ skipped = [']']) (h : ReadsOn f oe rest us tree) {fuel : Nat}
    (hfuel : (skipped ++ (rest ++ closing oe)).length ≤ fuel)
    (hrun : run fuel (reading f items) (skipped ++ (rest ++ closing oe)) = .ok tree) :
    ∃ trees n, Spans trees n ∧ n ≤ width us + skipped.length ∧
      (.anyRun ∉ us → trees.length = n) ∧ (∀ t ∈ trees, IsPart f t) ∧
      tree = .sequence (items.reverse ++ trees ++ if oe then [] else [.leaf f .dollar]) := by
  rcases hskip with rfl | rfl
  · obtain ⟨trees, n, hspans, hn, hruns, -, hrow, heq⟩ := h _ fuel hfuel hrun
    exact ⟨trees, n, hspans, hn, hruns, hrow.isPart, heq⟩
  · have hadds := Regex.State.adds_literal hf (c := ']') rfl (rest ++ closing oe)
    obtain ⟨fuel', hfuel', hrun'⟩ := exists_run_of_adds hadds hfuel hrun
    obtain ⟨trees, n, hspans, hn, hruns, -, hrow, rfl⟩ := h _ fuel' hfuel' hrun'
    exact ⟨.leaf f (.literal ']') :: trees, n + 1, .one rfl hspans, Nat.succ_le_succ hn,
      fun hus => congrArg Nat.succ (hruns hus),
      List.forall_mem_cons.mpr ⟨.inl ⟨_, .verbatim ']'⟩, hrow.isPart⟩, by simp⟩

/-- **Brackets that are not plain are read with what stands behind them as one character**, and a
line ends there. -/
theorem readsOn_of_opensMore (hf : f.Plain) (hmore : opensMore c = true) (hc : c ≠ '\n')
    (h : Tokenized rest us) (hnarrow : Narrow ('[' :: c :: ']' :: rest))
    (ih : ∀ {rest' : List Char} {us' : List Token}, rest'.length < rest.length →
      Tokenized rest' us' → Narrow rest' → ReadsOn f oe rest' us' tree) :
    ReadsOn f oe ('[' :: c :: ']' :: rest) (.literal c :: us) tree := by
  rintro items (_ | fuel) hfuel hrun
  · simp at hfuel
  obtain ⟨l, s, post, hl, hclass, hrun⟩ := exists_class_of_run hf hrun
  have hhead : (rest ++ closing oe).head? ≠ some ']' :=
    h.head?_append_closing_ne rfl (by decide) (by decide) (by decide)
  obtain ⟨negated, inside, rfl, hinside⟩ := exists_inside_of_opensMore hf hmore hclass hhead
  obtain ⟨mid, behind, rfl, rfl⟩ :=
    exists_of_suffix_closing (bracketClass_suffix_of_opensMore hf hmore hclass)
  have hline : '\n' ∈ mid := by
    have := hnarrow [] (c :: ']' :: mid) behind (by simp) (by simp)
    simpa [hc.symm] using this
  obtain ⟨skipped, rest', us', rfl, hskip, h', hsub, hw⟩ := h.behind rfl
  rw [if_pos hline] at hw
  have hsplit : Narrow (('[' :: c :: ']' :: (mid ++ ']' :: skipped)) ++ rest') := by
    simpa using hnarrow
  rw [List.append_assoc] at hrun
  obtain ⟨trees, n, hspans, hn, hruns, hpart, rfl⟩ := exists_spans_of_skipped hf hskip
    (ih (by simp; omega) h' hsplit.of_append) (by simp at hfuel ⊢; omega) hrun
  have hlt : n + 1 < width (.literal c :: us) := by
    rw [width]
    omega
  have hrow : Row f ('[' :: c :: ']' :: (mid ++ ']' :: (skipped ++ rest')))
      (.leaf f (.bracket negated inside) :: trees) :=
    ⟨by simp [plainBrackets, hmore],
      List.forall_mem_cons.mpr ⟨.inr ⟨negated, inside, rfl⟩, hpart⟩,
      fun _ => ⟨negated, inside, List.mem_cons_self .., hinside⟩⟩
  refine ⟨.leaf f (.bracket negated inside) :: trees, n + 1, .one hl hspans, Nat.le_of_lt hlt,
    fun hrun => ?_, fun _ => ⟨hlt, by simp [hline]⟩, hrow, by simp⟩
  have hus : .anyRun ∉ us' := fun h => hrun (List.mem_cons_of_mem _ (hsub h))
  rw [List.length_cons, hruns hus]

/-- **However the parser reads a text with tokens, it does not read more characters than they have;
where brackets are not plain, it reads fewer.** -/
theorem readsOn_of_tokenized (hf : f.Plain) (h : Tokenized cs ts) (hnarrow : Narrow cs) :
    ReadsOn f oe cs ts tree := by
  -- Behind a class reading goes on further down than at the next token.
  induction hlen : cs.length using Nat.strong_induction_on generalizing cs ts with
  | _ n ih =>
  have hnext : ∀ {w rest : List Char} {us : List Token}, cs = w ++ rest → 0 < w.length →
      Tokenized rest us → ReadsOn f oe rest us tree := by
    rintro w rest us rfl hw h
    rw [List.length_append] at hlen
    exact ih rest.length (by omega) h hnarrow.of_append rfl
  cases h with
  | nil => exact readsOn_nil hf
  | @bracket c rest us hc h =>
    cases hmore : opensMore c with
    | false =>
      have hadds := Regex.State.adds_bracket hf (opensMore_eq_false_iff.mp hmore)
        (rest ++ closing oe)
      exact (hnext (w := ['[', c, ']']) rfl (by simp) h).cons (.bracketed c) hadds
        (.one rfl .nil) (Nat.add_comm ..) (by simp [plainBrackets, hmore])
    | true =>
      refine readsOn_of_opensMore hf hmore hc h hnarrow fun hlt h' hnarrow' => ?_
      exact ih _ (by simp at hlen; omega) h' hnarrow' rfl
  | @escape c rest us hc h =>
    have hadds := Regex.State.adds_escape hf (isEscapable_of_isEscapedLiteral hc)
      (rest ++ closing oe)
    exact (hnext (w := ['\\', c]) rfl (by simp) h).cons (.escaped c) hadds (.one rfl .nil)
      (Nat.add_comm ..) rfl
  | @dotStar rest us h =>
    have hhead : (rest ++ closing oe).head? ≠ some '?' :=
      h.head?_append_closing_ne rfl (by decide) (by decide) (by decide)
    have hadds := Regex.State.adds_dotStar hf hhead
    rw [Bool.false_beq] at hadds
    exact (hnext (w := ['.', '*']) rfl (by simp) h).cons .dotStar hadds (.run rfl .nil)
      (Nat.zero_add _).symm rfl
  | @dot rest us h =>
    exact (hnext (w := ['.']) rfl (by simp) h).cons .dot (Regex.State.adds_dot hf _)
      (.one rfl .nil) (Nat.add_comm ..) rfl
  | @plain c rest us hc hdot h =>
    have hadds := Regex.State.adds_literal hf (isConstruct_of_not_isOperator hc hdot)
      (rest ++ closing oe)
    exact (hnext (w := [c]) rfl (by simp) h).cons (.verbatim c) hadds (.one rfl .nil)
      (Nat.add_comm ..)
      (plainBrackets_cons (ne_of_not_isOperator hc rfl) (ne_of_not_isOperator hc rfl) rest)

end RecordFilter.Downgrade
