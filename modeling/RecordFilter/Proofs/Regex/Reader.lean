import Mathlib.Data.List.TakeDrop
import RecordFilter.Regex.Reader

/-!
# Proofs/Regex/Reader — what the readers leave unread

Every reader leaves a suffix of the text it was given, and a bracket class ends right behind a
closing bracket (`classRest_suffix`). Nothing here depends on what is read, so these facts hold
of well-formed and odd expressions alike. What a class comes to is told only so far that one which
goes on behind its first part is more than a character (`classRest_isMore`).
-/

namespace RecordFilter.Regex

/-- A sequence of two steps succeeds exactly if the second one succeeds after the first. -/
theorem bind_eq_ok_iff {ε α β : Type} {x : Except ε α} {f : α → Except ε β} {b : β} :
    (x >>= f) = .ok b ↔ ∃ a, x = .ok a ∧ f a = .ok b := by
  constructor
  · intro h
    cases x with
    | error e => cases h
    | ok a => exact ⟨a, rfl, h⟩
  · rintro ⟨a, rfl, h⟩
    exact h

namespace Reader

variable {f : Flags} {cs rest : List Char}

/-- The one induction over characters: a reader that skips blanks and comments drops a front
part. -/
theorem takeSpaced_suffix (free : Bool) (p : Char → Bool) :
    ∀ (comment : Bool) (cs : List Char), (takeSpaced free p comment cs).2 <:+ cs
  | _, [] => List.suffix_refl _
  | true, c :: cs => (takeSpaced_suffix free p _ cs).trans (List.suffix_cons c cs)
  | false, c :: cs => by
      have ih := fun comment => (takeSpaced_suffix free p comment cs).trans (List.suffix_cons c cs)
      rw [takeSpaced]
      split
      · exact ih false
      split
      · exact ih true
      split
      · exact ih false
      · exact List.suffix_refl _

/-- What is skipped stands in front. -/
theorem skip_suffix (f : Flags) (cs : List Char) : skip f cs <:+ cs := takeSpaced_suffix _ _ _ _

/-- What is left behind a run of characters of one kind. -/
theorem suffix_of_takeWhile {p : Char → Bool} {taken : List Char}
    (h : takeWhile f p cs = (taken, rest)) : rest <:+ cs := by
  have := takeSpaced_suffix f.freeSpacing p false cs
  rwa [show takeSpaced f.freeSpacing p false cs = _ from h] at this

/-- What follows the head of something left unread is left unread too. -/
theorem suffix_of_skip_cons {c : Char} (h : skip f cs = c :: rest) : rest <:+ cs :=
  (List.suffix_cons c rest).trans (h ▸ skip_suffix f cs)

/-! ## Escapes -/

/-- A fixed number of hexadecimal digits stands in front. -/
theorem hexDigits_suffix : ∀ {n : Nat} {cs rest : List Char} {ds : List Nat},
    hexDigits f n cs = .ok (ds, rest) → rest <:+ cs
  | 0, cs, rest, ds, h => by
      cases h
      exact List.suffix_refl _
  | n + 1, cs, rest, ds, h => by
      rw [hexDigits] at h
      split at h
      · cases h
      · next c cs' hskip =>
        split at h
        · cases h
        · obtain ⟨⟨ds', rest'⟩, hds, hr⟩ := bind_eq_ok_iff.mp h
          cases hr
          exact (hexDigits_suffix hds).trans (suffix_of_skip_cons hskip)

/-- A code point stands in front, in braces or in a fixed number of digits. -/
theorem hexEscape_suffix {n : Nat} {l : Leaf} (h : hexEscape f n cs = .ok (l, rest)) :
    rest <:+ cs := by
  rw [hexEscape] at h
  split at h
  · next cs' hskip =>
    split at h
    · next text rest' htake =>
      split at h
      · obtain ⟨c, _, hr⟩ := bind_eq_ok_iff.mp h
        cases hr
        exact (List.suffix_cons _ _).trans
          ((suffix_of_takeWhile htake).trans (suffix_of_skip_cons hskip))
      · cases h
    · cases h
  · obtain ⟨⟨ds, rest'⟩, hds, h⟩ := bind_eq_ok_iff.mp h
    obtain ⟨c, _, h⟩ := bind_eq_ok_iff.mp h
    split at h
    · cases h
    · cases h
      exact (hexDigits_suffix hds).trans (skip_suffix f cs)

/-- The name of a property stands in front, whether it is one letter or stands in braces. -/
theorem propertyEscape_suffix {negated : Bool} {l : Leaf}
    (h : propertyEscape f negated cs = .ok (l, rest)) : rest <:+ cs := by
  rw [propertyEscape] at h
  split at h
  case h_1 => cases h
  case h_3 => cases h
  case' h_2 hskip =>
    split at h
    case' h_1 htake =>
      have hs := (List.suffix_cons _ _).trans
        ((suffix_of_takeWhile htake).trans (suffix_of_skip_cons hskip))
    case h_2 => cases h
  case' h_4 hskip => have hs := suffix_of_skip_cons hskip
  -- a known property leaves what is unread behind its name
  all_goals
    obtain ⟨_, hread, h⟩ := bind_eq_ok_iff.mp h
    cases hread
    dsimp only at h
    split at h
    · cases h
    · split at h
      · cases h
        exact hs
      · cases h

theorem boundaryEscape_suffix {l : Leaf} (h : boundaryEscape f cs = .ok (l, rest)) :
    rest <:+ cs := by
  rw [boundaryEscape.eq_def] at h
  split at h
  · next inside =>
    split at h
    · cases h
    · cases h
      exact List.suffix_refl _
    · next htake =>
      split at h
      · cases h
        exact (List.suffix_cons _ _).trans
          ((suffix_of_takeWhile htake).trans (List.suffix_cons _ _))
      · cases h
    · cases h
  · cases h
    exact List.suffix_refl _

theorem shorthand_suffix {k : CharClass.Shorthand} {negated : Bool} {l : Leaf}
    (h : shorthand f k negated cs = .ok (l, rest)) : rest <:+ cs := by
  rw [shorthand] at h
  split at h
  · cases h
  · cases h
    exact List.suffix_refl _

/-- **An escape stands in front**, whichever it is. -/
theorem escape_suffix {c : Char} {l : Leaf} (h : escape f (c :: cs) = .ok (l, rest)) :
    rest <:+ cs := by
  rw [escape.eq_def] at h
  split at h <;> cases ‹c :: cs = _›
  case h_2 => exact hexEscape_suffix h
  case h_3 => exact hexEscape_suffix h
  case h_4 => exact hexEscape_suffix h
  case h_5 => exact propertyEscape_suffix h
  case h_6 => exact propertyEscape_suffix h
  case h_7 => exact shorthand_suffix h
  case h_8 => exact shorthand_suffix h
  case h_9 => exact shorthand_suffix h
  case h_10 => exact shorthand_suffix h
  case h_11 => exact shorthand_suffix h
  case h_12 => exact shorthand_suffix h
  case h_15 => exact boundaryEscape_suffix h
  case h_19 =>
    split at h
    · cases h
      exact List.suffix_refl _
    · split at h
      · cases h
        exact List.suffix_refl _
      · cases h
  all_goals
    cases h
    exact List.suffix_refl _

/-! ## Bracket classes -/

/-- What opens a class stands in front, with the characters that may only come first. -/
theorem openBracket_suffix {b : Bracket} (h : openBracket f cs = .ok (b, rest)) : rest <:+ cs := by
  unfold openBracket at h
  simp only at h
  split at h
  case' h_1 hskip => have hs := suffix_of_skip_cons hskip
  case' h_2 => have hs := skip_suffix f cs
  -- whatever stands in front, hyphens or a closing bracket are read behind it
  all_goals
    split at h
    · cases h
    · split at h
      · next htake =>
        cases h
        exact (List.suffix_cons _ _).trans ((suffix_of_takeWhile htake).trans hs)
      · next htake =>
        cases h
        exact (suffix_of_takeWhile htake).trans hs

theorem suffix_of_span {p : Char → Bool} {taken : List Char} (h : cs.span p = (taken, rest)) :
    rest <:+ cs := by
  have := List.dropWhile_suffix (l := cs) p
  rw [List.span_eq_takeWhile_dropWhile] at h
  cases h
  exact this

/-- The name of a class stands in front, up to its closing bracket. -/
theorem asciiClass?_suffix {s : CharClass} {negated : Bool}
    (h : asciiClass? cs = some (s, negated, rest)) : rest <:+ cs := by
  unfold asciiClass? at h
  simp only at h
  split at h
  · next hspan =>
    obtain ⟨s', _, hs'⟩ := Option.map_eq_some_iff.mp h
    cases hs'
    refine (List.suffix_cons _ _).trans
      ((List.suffix_cons _ _).trans ((suffix_of_span hspan).trans ?_))
    split
    · exact List.suffix_cons _ _
    · exact List.suffix_refl _
  · cases h

/-- An item takes its first character at least. -/
theorem classItem_suffix {l : Leaf} (h : classItem f cs = .ok (l, rest)) : rest <:+ cs.tail := by
  rw [classItem.eq_def] at h
  split at h
  · cases h
  · next cs' =>
    cases cs' with
    | nil => cases h
    | cons d cs' => exact (escape_suffix h).trans (List.suffix_cons d cs')
  · cases h
    exact List.suffix_refl _

/-- A part reads on behind its first item, if at all. -/
theorem classPart_suffix_of_classItem {low : Leaf} {behind : List Char} {s : ClassTree}
    (hlow : classItem f cs = .ok (low, behind)) (h : classPart f cs = .ok (s, rest)) :
    rest <:+ behind := by
  obtain ⟨_, hlow', h⟩ := bind_eq_ok_iff.mp h
  cases hlow.symm.trans hlow'
  simp only at h
  split at h
  · next after hskip =>
    have hafter := suffix_of_skip_cons hskip
    split at h
    · obtain ⟨⟨high, rest'⟩, hhigh, h⟩ := bind_eq_ok_iff.mp h
      obtain ⟨a, _, h⟩ := bind_eq_ok_iff.mp h
      obtain ⟨b, _, h⟩ := bind_eq_ok_iff.mp h
      split at h
      · cases h
        exact (classItem_suffix hhigh).trans
          ((List.tail_suffix _).trans ((skip_suffix f after).trans hafter))
      · cases h
    · obtain ⟨t, _, h⟩ := bind_eq_ok_iff.mp h
      cases h
      exact hskip ▸ skip_suffix f behind
  · obtain ⟨t, _, h⟩ := bind_eq_ok_iff.mp h
    cases h
    exact skip_suffix f behind

/-- A part takes its first character at least. -/
theorem classPart_suffix {s : ClassTree} (h : classPart f cs = .ok (s, rest)) :
    rest <:+ cs.tail := by
  obtain ⟨⟨low, behind⟩, hlow, _⟩ := bind_eq_ok_iff.mp h
  exact (classPart_suffix_of_classItem hlow h).trans (classItem_suffix hlow)

/-- **Inside open brackets, reading ends right behind a closing bracket.** -/
theorem classRest_suffix : ∀ {fuel : Nat} {b b' : Bracket} {outer : List Bracket}
    {cs rest : List Char}, classRest f fuel b outer cs = .ok (b', rest) → ']' :: rest <:+ cs
  | 0, _, _, _, _, _, h => nomatch h
  | fuel + 1, b, b', outer, cs, rest, h => by
      rw [classRest] at h
      have hcs := skip_suffix f cs
      split at h
      · cases h
      · next rest' hskip =>
        split at h
        · cases h
          exact hskip ▸ hcs
        · exact (classRest_suffix h).trans (suffix_of_skip_cons hskip)
      · next rest' hskip =>
        have hrest := suffix_of_skip_cons hskip
        simp only at h
        split at h
        · next s negated rest'' hnamed =>
          split at h
          · cases h
          · refine (classRest_suffix h).trans (List.IsSuffix.trans ?_ hrest)
            split at hnamed
            · exact (asciiClass?_suffix hnamed).trans (List.suffix_cons _ _)
            · cases hnamed
        · obtain ⟨⟨inner, rest''⟩, hopen, h⟩ := bind_eq_ok_iff.mp h
          exact (classRest_suffix h).trans ((openBracket_suffix hopen).trans hrest)
      · next rest' hskip =>
        exact (classRest_suffix h).trans ((List.suffix_cons _ _).trans (suffix_of_skip_cons hskip))
      · next rest' hskip =>
        exact (classRest_suffix h).trans ((List.suffix_cons _ _).trans (suffix_of_skip_cons hskip))
      · next rest' hskip =>
        exact (classRest_suffix h).trans ((List.suffix_cons _ _).trans (suffix_of_skip_cons hskip))
      · obtain ⟨⟨part, rest'⟩, hpart, h⟩ := bind_eq_ok_iff.mp h
        exact (classRest_suffix h).trans
          ((classPart_suffix hpart).trans ((List.tail_suffix _).trans hcs))

/-! ## Classes of more than one character -/

/-- Several parts, or one that is no character, are no character. -/
theorem sequence_ne_literal {parts : List ClassTree}
    (h : 2 ≤ parts.length ∨ ∃ s ∈ parts, ∀ c, s ≠ .literal c) (c : Char) :
    ClassTree.sequence parts ≠ .literal c := by
  rcases parts with _ | ⟨s, _ | ⟨t, parts⟩⟩
  · nofun
  · obtain ⟨s', hs, hne⟩ := h.resolve_left (by simp)
    obtain rfl := List.mem_singleton.mp hs
    exact hne c
  · nofun

namespace Bracket

variable {b : Bracket}

/-- Whatever is still to come, the inside of the bracket will be more than a character. -/
def IsMore (b : Bracket) : Prop :=
  b.left? ≠ none ∨ 2 ≤ b.parts.length ∨ ∃ s ∈ b.parts, ∀ c, s ≠ .literal c

/-- What is more than a character is not the tree of one. -/
theorem IsMore.inside_ne (h : b.IsMore) (c : Char) : b.inside ≠ .literal c := by
  rw [inside]
  split
  · nofun
  · next hleft =>
    have hparts := h.resolve_left (absurd hleft)
    exact sequence_ne_literal (by simpa using hparts) c

theorem IsMore.add (h : b.IsMore) (s : ClassTree) : (b.add s).IsMore :=
  h.imp_right (Or.imp Nat.le_succ_of_le fun ⟨t, ht, hne⟩ => ⟨t, List.mem_cons_of_mem s ht, hne⟩)

/-- A part that is no character makes more of the class. -/
theorem isMore_add {s : ClassTree} (hs : ∀ c, s ≠ .literal c) : (b.add s).IsMore :=
  .inr (.inr ⟨s, List.mem_cons_self, hs⟩)

/-- A second part makes more of the class. -/
theorem isMore_add_of_parts (h : b.parts ≠ []) (s : ClassTree) : (b.add s).IsMore :=
  .inr (.inl (Nat.succ_le_succ (List.length_pos_iff.mpr h)))

theorem isMore_operator (o : SetOp) : (b.operator o).IsMore := .inl nofun

end Bracket

/-- **A class that goes on behind a part, or has brackets in it, becomes more than a character.** -/
theorem classRest_isMore {b b' : Bracket} {outer : List Bracket} {fuel : Nat}
    (h : outer ≠ [] ∨ b.IsMore ∨ b.parts ≠ [] ∧ (skip f cs).head? ≠ some ']')
    (hclass : classRest f fuel b outer cs = .ok (b', rest)) : b'.IsMore := by
  induction fuel generalizing b outer cs with
  | zero => cases hclass
  | succ fuel ih =>
    have hadd : ∀ (s : ClassTree) (cs : List Char), outer ≠ [] ∨ (b.add s).IsMore ∨
        (b.add s).parts ≠ [] ∧ (skip f cs).head? ≠ some ']' := fun s _ =>
      h.imp_right fun h => .inl (h.elim (·.add s) fun h => Bracket.isMore_add_of_parts h.1 s)
    have hoperator : ∀ (o : SetOp) (cs : List Char), outer ≠ [] ∨ (b.operator o).IsMore ∨
        (b.operator o).parts ≠ [] ∧ (skip f cs).head? ≠ some ']' := fun o _ =>
      .inr (.inl (Bracket.isMore_operator o))
    rw [classRest] at hclass
    split at hclass
    · cases hclass
    · next hskip =>
      split at hclass
      · cases hclass
        refine (h.resolve_left (absurd rfl)).resolve_right fun h => h.2 ?_
        rw [hskip]
        rfl
      · refine ih (.inr (.inl (Bracket.isMore_add ?_))) hclass
        exact fun _ => nofun
    · simp only at hclass
      split at hclass
      · split at hclass
        · cases hclass
        · exact ih (hadd _ _) hclass
      · obtain ⟨⟨inner, rest'⟩, -, hclass⟩ := bind_eq_ok_iff.mp hclass
        exact ih (.inl (List.cons_ne_nil b outer)) hclass
    · exact ih (hoperator _ _) hclass
    · exact ih (hoperator _ _) hclass
    · exact ih (hoperator _ _) hclass
    · obtain ⟨⟨part, rest'⟩, -, hclass⟩ := bind_eq_ok_iff.mp hclass
      exact ih (hadd _ _) hclass

end Reader

end RecordFilter.Regex
