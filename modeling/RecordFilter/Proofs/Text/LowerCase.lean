import Mathlib.Data.List.Basic
import RecordFilter.Proofs.Text.CaseFolding
import RecordFilter.Text.LowerCase

/-!
# Proofs/Text/LowerCase — lower case and case folding as ways to ignore case

Two texts are equal up to case if they are the same in lower case, or if they are the same folded.
Folding goes character by character; lower-casing looks at the neighbours of a sigma, and makes two
characters of a capital I with a dot. So the two ways differ on some texts, and a text is
*unambiguous* if they do not differ on it: `unambiguous_iff` says that the test by characters
`unambiguous` decides this. On ASCII texts the two are one (`lower_eq_folded`), and change the ASCII
letters alone (`lower_eq_toLower`).
-/

namespace RecordFilter.Text

/-- The text with every character folded. -/
def folded (s : String) : String := .ofList (s.toList.map fold)

/-- Equality of folded texts, character by character. -/
theorem folded_eq_iff {s t : String} :
    folded s = folded t ↔ s.toList.map fold = t.toList.map fold :=
  String.ofList_inj

/-- Equality of texts in lower case, with nothing before the first character. -/
theorem lower_eq_iff {s t : String} :
    lower s = lower t ↔ lowerAfter [] s.toList = lowerAfter [] t.toList :=
  String.ofList_inj

/-! ## The map of single characters -/

/-- The table of lower-case forms is settled, as that of foldings is. -/
theorem settled_lowerMap : lowerMap.Settled where
  ascends := by decide
  sound := by decide +kernel
  misses := by decide +kernel

/-- The characters with the same lower-case form as `c`. -/
def lowerVariants (c : Char) : List Char :=
  let lowered := lowerMap.apply c
  lowered :: lowerMap.sources lowered

@[simp] theorem mem_lowerVariants_iff {c d : Char} :
    c ∈ lowerVariants d ↔ lowerMap.apply c = lowerMap.apply d := by
  rw [lowerVariants, List.mem_cons]
  exact CaseMap.eq_or_mem_sources_iff settled_lowerMap

/-- Folding and lower-casing put the same characters together with `c`, which is not the letter that
becomes two in lower case. -/
def unambiguousChar (c : Char) : Bool :=
  c ≠ '\u0130' && (caseVariants c).all (fun d => lowerMap.apply d = lowerMap.apply c) &&
    (lowerVariants c).all fun d => fold d = fold c

/-- The check looks at variants only, but what it finds holds against every character. -/
theorem unambiguousChar_iff {c : Char} : unambiguousChar c = true ↔
    c ≠ '\u0130' ∧ ∀ d, fold d = fold c ↔ lowerMap.apply d = lowerMap.apply c := by
  simp only [unambiguousChar, Bool.and_eq_true, List.all_eq_true, decide_eq_true_eq,
    mem_caseVariants_iff, mem_lowerVariants_iff, and_assoc, forall_and, iff_def]

/-- All three sigmas fold to one, and two of them are in lower case. -/
theorem fold_sigmas : fold '\u03c3' = fold '\u03a3' ∧ fold '\u03c2' = fold '\u03a3' ∧
    lowerMap.apply '\u03a3' = '\u03c3' ∧ lowerMap.apply '\u03c3' = '\u03c3' ∧
    lowerMap.apply '\u03c2' = '\u03c2' := by decide

/-- No sigma is unambiguous. -/
theorem fold_ne_of_unambiguousChar {c : Char} (h : unambiguousChar c = true) :
    fold c ≠ fold '\u03a3' := by
  intro hc
  obtain ⟨-, hiff⟩ := unambiguousChar_iff.mp h
  obtain ⟨hmedial, hfinal, -, hmedial', hfinal'⟩ := fold_sigmas
  have hlower : lowerMap.apply '\u03c3' = lowerMap.apply '\u03c2' :=
    ((hiff _).mp (hmedial.trans hc.symm)).trans ((hiff _).mp (hfinal.trans hc.symm)).symm
  rw [hmedial', hfinal'] at hlower
  exact absurd hlower (by decide)

/-- An unambiguous character is no sigma in lower case either. -/
theorem lowerMap_ne_of_unambiguousChar {c : Char} (h : unambiguousChar c = true) :
    lowerMap.apply c ≠ '\u03c3' ∧ lowerMap.apply c ≠ '\u03c2' := by
  have hne := fold_ne_of_unambiguousChar h
  obtain ⟨-, hiff⟩ := unambiguousChar_iff.mp h
  obtain ⟨hmedial, hfinal, -, hmedial', hfinal'⟩ := fold_sigmas
  constructor
  · intro hc
    exact hne (((hiff _).mpr (hmedial'.trans hc.symm)).symm.trans hmedial)
  · intro hc
    exact hne (((hiff _).mpr (hfinal'.trans hc.symm)).symm.trans hfinal)

/-- In lower case, the small I goes with the capital one without a dot; the dot and the capital I
with a dot are alone, and the latter is so folded too. -/
theorem variants_dots : lowerVariants 'i' = ['i', 'I'] ∧ lowerVariants '\u0307' = ['\u0307'] ∧
    lowerVariants '\u0130' = ['\u0130'] ∧ caseVariants '\u0130' = ['\u0130'] ∧
    lowerMap.apply 'i' = 'i' ∧ lowerMap.apply '\u0307' = '\u0307' := by decide

/-- The small and the capital I, without a dot of its own, are what `i` is in lower case. -/
theorem eq_of_lowerMap_eq_i {c : Char} (h : lowerMap.apply c = 'i') : c = 'i' ∨ c = 'I' := by
  obtain ⟨hvariants, -, -, -, hi, -⟩ := variants_dots
  have hmem := mem_lowerVariants_iff.mpr (h.trans hi.symm)
  rw [hvariants] at hmem
  simpa using hmem

/-- No other character has the dot as its lower case that a capital I with a dot leaves behind. -/
theorem eq_of_lowerMap_eq_dot {c : Char} (h : lowerMap.apply c = '\u0307') : c = '\u0307' := by
  obtain ⟨-, hvariants, -, -, -, hdot⟩ := variants_dots
  have hmem := mem_lowerVariants_iff.mpr (h.trans hdot.symm)
  rwa [hvariants, List.mem_singleton] at hmem

theorem eq_of_lowerMap_eq_dotted {c : Char} (h : lowerMap.apply c = lowerMap.apply '\u0130') :
    c = '\u0130' := by
  obtain ⟨-, -, hvariants, -⟩ := variants_dots
  have hmem := mem_lowerVariants_iff.mpr h
  rwa [hvariants, List.mem_singleton] at hmem

theorem eq_of_fold_eq_dotted {c : Char} (h : fold c = fold '\u0130') : c = '\u0130' := by
  obtain ⟨-, -, -, hvariants, -⟩ := variants_dots
  have hmem := mem_caseVariants_iff.mpr h
  rwa [hvariants, List.mem_singleton] at hmem

/-! ## Lower-casing next to other characters -/

/-- A capital sigma becomes one of the two small ones, as its neighbours tell. -/
theorem lowerChar_sigma (before after : List Char) :
    lowerChar before '\u03a3' after = ['\u03c3'] ∨
      lowerChar before '\u03a3' after = ['\u03c2'] := by
  rw [lowerChar, if_pos rfl]
  split
  · exact .inr rfl
  · exact .inl rfl

@[simp] theorem lowerChar_dotted (before after : List Char) :
    lowerChar before '\u0130' after = ['i', '\u0307'] := rfl

/-- Other characters do not look at their neighbours. -/
theorem lowerChar_other {c : Char} (hsigma : c ≠ '\u03a3') (hdotted : c ≠ '\u0130')
    (before after : List Char) : lowerChar before c after = [lowerMap.apply c] := by
  rw [lowerChar, if_neg hsigma, if_neg hdotted]

theorem length_lowerChar (before : List Char) (c : Char) (after : List Char) :
    (lowerChar before c after).length = (if c == '\u0130' then 1 else 0) + 1 := by
  by_cases hsigma : c = '\u03a3'
  · subst hsigma
    rcases lowerChar_sigma before after with h | h <;> rw [h] <;> rfl
  · by_cases hdotted : c = '\u0130'
    · rw [hdotted, lowerChar_dotted]
      rfl
    · rw [lowerChar_other hsigma hdotted, if_neg (by simpa using hdotted)]
      rfl

/-- How much a text is in lower case does not depend on what follows it. -/
theorem exists_lowerAfter_append (a b before : List Char) :
    ∃ a', a'.length = a.length + a.count '\u0130' ∧
      lowerAfter before (a ++ b) = a' ++ lowerAfter (a.reverse ++ before) b := by
  induction a generalizing before with
  | nil => exact ⟨[], rfl, rfl⟩
  | cons c a ih =>
    obtain ⟨a', hlength, heq⟩ := ih (c :: before)
    refine ⟨lowerChar before c (a ++ b) ++ a', ?_, ?_⟩
    · rw [List.length_append, length_lowerChar, hlength, List.length_cons, List.count_cons]
      omega
    · rw [List.cons_append, lowerAfter, heq, List.reverse_cons, List.append_assoc,
        List.append_assoc]
      rfl

/-- Behind one and the same text, texts that are the same in lower case start with characters that
are so. -/
theorem lowerMap_eq_of_lowerAfter_eq {a b b' : List Char} {c d : Char}
    (hc : c ≠ '\u03a3' ∧ c ≠ '\u0130') (hd : d ≠ '\u03a3' ∧ d ≠ '\u0130')
    (h : lowerAfter [] (a ++ c :: b) = lowerAfter [] (a ++ d :: b')) :
    lowerMap.apply c = lowerMap.apply d := by
  obtain ⟨u, hu, hequ⟩ := exists_lowerAfter_append a (c :: b) []
  obtain ⟨v, hv, heqv⟩ := exists_lowerAfter_append a (d :: b') []
  rw [hequ, heqv, lowerAfter, lowerAfter, lowerChar_other hc.1 hc.2, lowerChar_other hd.1 hd.2] at h
  have htail := (List.append_inj h (hu.trans hv.symm)).2
  exact (List.cons.inj htail).1

/-- The lower-case form of a character that does not depend on its neighbours. -/
def lowerAlone (c : Char) : List Char :=
  if c = '\u0130' then ['i', '\u0307'] else [lowerMap.apply c]

/-- The capital I with a dot becomes what an I of any case and a dot become. -/
theorem lowerAlone_dotted {c : Char} (hc : c = 'i' ∨ c = 'I') :
    lowerAlone '\u0130' = lowerAlone c ++ lowerAlone '\u0307' := by
  rcases hc with rfl | rfl <;> decide

/-- Without a sigma, each character is lower-cased by itself. -/
theorem lowerAfter_eq_flatMap {cs : List Char} (h : '\u03a3' ∉ cs) (before : List Char) :
    lowerAfter before cs = cs.flatMap lowerAlone := by
  induction cs generalizing before with
  | nil => rfl
  | cons c cs ih =>
    obtain ⟨hc, hcs⟩ := List.ne_and_not_mem_of_not_mem_cons h
    rw [lowerAfter, ih hcs, List.flatMap_cons, lowerChar, if_neg hc.symm, lowerAlone]

/-! ## Unambiguous texts -/

/-- Each character is unambiguous, and no two in a row are what one becomes in lower case. -/
def unambiguous : List Char → Bool
  | [] => true
  | c :: rest =>
    unambiguousChar c && !((c = 'i' || c = 'I') && rest.head? = some '\u0307') && unambiguous rest

/-- What the check says of a first character and of the rest. -/
theorem unambiguous_cons {c : Char} {rest : List Char} : unambiguous (c :: rest) = true ↔
    unambiguousChar c = true ∧ ((c = 'i' ∨ c = 'I') → rest.head? ≠ some '\u0307') ∧
      unambiguous rest = true := by
  simp only [unambiguous, Bool.and_eq_true, Bool.not_eq_true', Bool.and_eq_false_iff,
    Bool.or_eq_false_iff, decide_eq_false_iff_not, and_assoc, imp_iff_not_or, not_or, ne_eq]

/-- A capital I with a dot and an unambiguous text have no start in common, in lower case. -/
theorem lowerChar_dotted_append_ne {e : List Char} (he : unambiguous e = true)
    (before after rest : List Char) :
    lowerChar before '\u0130' after ++ rest ≠ e.map lowerMap.apply := by
  rw [lowerChar_dotted]
  intro h
  cases e with
  | nil => cases h
  | cons c e =>
    obtain ⟨-, hpair, -⟩ := unambiguous_cons.mp he
    obtain ⟨hc, htail⟩ := List.cons.inj h
    cases e with
    | nil => cases htail
    | cons d e =>
      have hd := eq_of_lowerMap_eq_dot (List.cons.inj htail).1.symm
      exact hpair (eq_of_lowerMap_eq_i hc.symm) (congrArg some hd)

/-- **What is the same as an unambiguous text in lower case is the same folded.** -/
theorem lowerAfter_eq_map_iff {e : List Char} (he : unambiguous e = true) (t before : List Char) :
    lowerAfter before t = e.map lowerMap.apply ↔ t.map fold = e.map fold := by
  induction t generalizing e before with
  | nil => cases e <;> simp [lowerAfter]
  | cons c t ih =>
    rw [lowerAfter]
    by_cases hdotted : c = '\u0130'
    · subst hdotted
      refine iff_of_false (lowerChar_dotted_append_ne he _ _ _) fun h => ?_
      cases e with
      | nil => cases h
      | cons d e =>
        obtain ⟨hd, -, -⟩ := unambiguous_cons.mp he
        exact (unambiguousChar_iff.mp hd).1 (eq_of_fold_eq_dotted (List.cons.inj h).1.symm)
    cases e with
    | nil =>
      refine iff_of_false (fun h => ?_) nofun
      have hempty := List.length_eq_zero_iff.mpr (List.append_eq_nil_iff.mp h).1
      rw [length_lowerChar] at hempty
      omega
    | cons d e =>
      obtain ⟨hd, -, he⟩ := unambiguous_cons.mp he
      obtain ⟨-, hiff⟩ := unambiguousChar_iff.mp hd
      rw [List.map_cons, List.map_cons, List.map_cons]
      by_cases hsigma : c = '\u03a3'
      · subst hsigma
        refine iff_of_false (fun h => ?_) fun h =>
          fold_ne_of_unambiguousChar hd (List.cons.inj h).1.symm
        obtain ⟨hmedial, hfinal⟩ := lowerMap_ne_of_unambiguousChar hd
        rcases lowerChar_sigma before t with heq | heq
        · rw [heq] at h
          exact hmedial (List.cons.inj h).1.symm
        · rw [heq] at h
          exact hfinal (List.cons.inj h).1.symm
      · rw [lowerChar_other hsigma hdotted, List.singleton_append, List.cons.injEq,
          List.cons.injEq, ih he, ← hiff c]

/-- An unambiguous text is lower-cased one character to one. -/
theorem lowerAfter_eq_map {e : List Char} (he : unambiguous e = true) :
    lowerAfter [] e = e.map lowerMap.apply :=
  (lowerAfter_eq_map_iff he e []).mpr rfl

/-! ## Other texts are ambiguous -/

theorem unambiguous_of_forall {e : List Char} (hchar : ∀ c ∈ e, unambiguousChar c = true)
    (hpair : ∀ a c b, e = a ++ c :: '\u0307' :: b → ¬ (c = 'i' ∨ c = 'I')) :
    unambiguous e = true := by
  induction e with
  | nil => rfl
  | cons c e ih =>
    rw [List.forall_mem_cons] at hchar
    refine unambiguous_cons.mpr ⟨hchar.1, fun hc hhead => ?_, ih hchar.2 fun a d b he => ?_⟩
    · obtain ⟨b, rfl⟩ := List.head?_eq_some_iff.mp hhead
      exact hpair [] c b rfl hc
    · exact hpair (c :: a) d b (congrArg (c :: ·) he)

/-- A text is the same as `e` in lower case exactly if it is the same folded. -/
def Agree (e : List Char) : Prop :=
  ∀ t, lowerAfter [] t = lowerAfter [] e ↔ t.map fold = e.map fold

section Agree

variable {e a b : List Char} {c : Char}

/-- Folding does not tell the three sigmas apart, lower-casing tells two of them apart. -/
theorem Agree.fold_ne (h : Agree (a ++ c :: b)) : fold c ≠ fold '\u03a3' := by
  intro hc
  have hsame : ∀ d, fold d = fold '\u03a3' →
      lowerAfter [] (a ++ d :: b) = lowerAfter [] (a ++ c :: b) := by
    intro d hd
    rw [h, List.map_append, List.map_append, List.map_cons, List.map_cons, hd, hc]
  obtain ⟨hmedial, hfinal, -, hmedial', hfinal'⟩ := fold_sigmas
  have heq := lowerMap_eq_of_lowerAfter_eq (by decide) (by decide)
    ((hsame _ hmedial).trans (hsame _ hfinal).symm)
  rw [hmedial', hfinal'] at heq
  exact absurd heq (by decide)

/-- So no capital sigma is in the text. -/
theorem Agree.sigma_not_mem (h : Agree e) : '\u03a3' ∉ e := by
  intro hmem
  obtain ⟨a, b, rfl⟩ := List.append_of_mem hmem
  exact h.fold_ne rfl

/-- A text of another length is not the same folded, so it must not be the same in lower case. -/
theorem Agree.length_eq (h : Agree e) {t : List Char} (ht : '\u03a3' ∉ t)
    (hlower : t.flatMap lowerAlone = e.flatMap lowerAlone) : t.length = e.length := by
  have hfold := (h t).mp (by
    rw [lowerAfter_eq_flatMap ht, lowerAfter_eq_flatMap h.sigma_not_mem, hlower])
  simpa using congrArg List.length hfold

/-- A capital I with a dot has the length of one character and the lower case of two. -/
theorem Agree.ne_dotted (h : Agree (a ++ c :: b)) : c ≠ '\u0130' := by
  rintro rfl
  have hmem := h.sigma_not_mem
  have hlength := h.length_eq (t := a ++ 'i' :: '\u0307' :: b) (by simpa using hmem) (by
    rw [List.flatMap_append, List.flatMap_append, List.flatMap_cons, List.flatMap_cons,
      List.flatMap_cons, lowerAlone_dotted (.inl rfl), List.append_assoc])
  simp at hlength

/-- An i and a dot behind it are the lower case of one character, so the pair is not in the text
either. -/
theorem Agree.not_pair (h : Agree (a ++ c :: '\u0307' :: b)) : ¬ (c = 'i' ∨ c = 'I') := by
  intro hc
  have hmem := h.sigma_not_mem
  simp only [List.mem_append, List.mem_cons, not_or] at hmem
  have hlength := h.length_eq (t := a ++ '\u0130' :: b) (by simp [hmem]) (by
    rw [List.flatMap_append, List.flatMap_append, List.flatMap_cons, List.flatMap_cons,
      List.flatMap_cons, lowerAlone_dotted hc, List.append_assoc])
  simp at hlength

/-- Of all characters but the two with rules of their own, the same ones fold and lower-case as a
character of the text does. -/
theorem Agree.fold_eq_iff (h : Agree (a ++ c :: b)) {d : Char} (hsigma : d ≠ '\u03a3')
    (hdotted : d ≠ '\u0130') : fold d = fold c ↔ lowerMap.apply d = lowerMap.apply c := by
  have hmem := h.sigma_not_mem
  have hcdotted := h.ne_dotted
  simp only [List.mem_append, List.mem_cons, not_or] at hmem
  have hiff := h (a ++ d :: b)
  rw [List.map_append, List.map_append, List.map_cons, List.map_cons] at hiff
  constructor
  · intro hfold
    rw [hfold] at hiff
    exact lowerMap_eq_of_lowerAfter_eq ⟨hsigma, hdotted⟩ ⟨Ne.symm hmem.2.1, hcdotted⟩
      (hiff.mpr rfl)
  · intro hlower
    have halone : lowerAlone d = lowerAlone c := by
      rw [lowerAlone, lowerAlone, if_neg hdotted, if_neg hcdotted, hlower]
    rw [lowerAfter_eq_flatMap (by simp [hmem, hsigma.symm]),
      lowerAfter_eq_flatMap (by simp [hmem]), List.flatMap_append, List.flatMap_append,
      List.flatMap_cons, List.flatMap_cons, halone] at hiff
    exact (List.cons.inj (List.append_cancel_left (hiff.mp rfl))).1

/-- **If the two ways agree on a text, they agree on each of its characters.** -/
theorem Agree.unambiguousChar (h : Agree (a ++ c :: b)) : unambiguousChar c = true := by
  refine unambiguousChar_iff.mpr ⟨h.ne_dotted, fun d => ?_⟩
  by_cases hsigma : d = '\u03a3'
  · subst hsigma
    refine iff_of_false (fun hd => h.fold_ne hd.symm) fun hd => ?_
    obtain ⟨hmedial, -, hcapital, hmedial', -⟩ := fold_sigmas
    have hc := (h.fold_eq_iff (by decide) (by decide)).mpr ((hmedial'.trans hcapital.symm).trans hd)
    exact h.fold_ne (hc.symm.trans hmedial)
  by_cases hdotted : d = '\u0130'
  · subst hdotted
    refine iff_of_false (fun hd => h.ne_dotted (eq_of_fold_eq_dotted hd.symm)) fun hd => ?_
    exact h.ne_dotted (eq_of_lowerMap_eq_dotted hd.symm)
  exact h.fold_eq_iff hsigma hdotted

end Agree

/-- **Folding and lower-casing agree on exactly the unambiguous texts.** -/
theorem unambiguous_iff {e : String} :
    unambiguous e.toList = true ↔ ∀ t, lower t = lower e ↔ folded t = folded e := by
  constructor
  · intro he t
    rw [lower_eq_iff, folded_eq_iff, lowerAfter_eq_map he]
    exact lowerAfter_eq_map_iff he _ _
  · intro h
    have hagree : Agree e.toList := by
      intro t
      have ht := h (.ofList t)
      rwa [lower_eq_iff, folded_eq_iff, String.toList_ofList] at ht
    refine unambiguous_of_forall (fun c hc => ?_) fun a c b he => ?_
    · obtain ⟨a, b, he⟩ := List.append_of_mem hc
      exact (he ▸ hagree).unambiguousChar
    · exact (he ▸ hagree).not_pair

example : unambiguous "Big 50%".toList = true ∧ unambiguous "small".toList = false := by
  decide

/-! ## ASCII texts -/

/-- All characters of the text are ASCII. -/
def IsAscii (s : String) : Prop := ∀ c ∈ s.toList, c.toNat < 128

-- Searching may find an instance that runs through all characters.
instance (s : String) : Decidable (IsAscii s) :=
  show Decidable (∀ c ∈ s.toList, c.toNat < 128) from List.decidableBAll _ s.toList

/-- ASCII characters are lower-cased and folded as ASCII letters are. -/
theorem lowerAlone_ascii {c : Char} (h : c.toNat < 128) :
    c ≠ '\u03a3' ∧ lowerAlone c = [c.toLower] ∧ fold c = c.toLower := by
  have hascii : ∀ n < 128, Char.ofNat n ≠ '\u03a3' ∧
      lowerAlone (.ofNat n) = [(Char.ofNat n).toLower] ∧
      fold (.ofNat n) = (Char.ofNat n).toLower := by decide
  have hc := hascii c.toNat h
  rwa [Char.ofNat_toNat] at hc

theorem toLower_eq_ofList (s : String) : s.toLower = .ofList (s.toList.map Char.toLower) := by
  have hmap : s.toLower = s.map Char.toLower := rfl
  rw [hmap, ← String.toList_inj, String.toList_map, String.toList_ofList]

/-- **Of ASCII texts, lower-casing changes the ASCII letters alone.** -/
theorem lower_eq_toLower {s : String} (h : IsAscii s) : lower s = s.toLower := by
  have hsigma : '\u03a3' ∉ s.toList := fun hmem => (lowerAlone_ascii (h _ hmem)).1 rfl
  have hchar : ∀ c ∈ s.toList, lowerAlone c = [c.toLower] := fun c hc =>
    (lowerAlone_ascii (h c hc)).2.1
  rw [lower, lowerAfter_eq_flatMap hsigma, List.flatMap_congr hchar, ← List.map_eq_flatMap,
    toLower_eq_ofList]

/-- Of ASCII texts, folding changes the ASCII letters alone. -/
theorem folded_eq_toLower {s : String} (h : IsAscii s) : folded s = s.toLower := by
  have hchar : ∀ c ∈ s.toList, fold c = c.toLower := fun c hc => (lowerAlone_ascii (h c hc)).2.2
  rw [folded, List.map_congr_left hchar, toLower_eq_ofList]

/-- **ASCII texts are folded and lower-cased alike.** -/
theorem lower_eq_folded {s : String} (h : IsAscii s) : lower s = folded s :=
  (lower_eq_toLower h).trans (folded_eq_toLower h).symm

end RecordFilter.Text
