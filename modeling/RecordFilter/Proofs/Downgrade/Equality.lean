import RecordFilter.Proofs.Downgrade.Lossless
import RecordFilter.Proofs.Text.LowerCase

/-!
# Proofs/Downgrade/Equality — expressions that become an equality

An expression becomes an equality if it has anchors at both ends and plain characters alone between
them. If its brackets are what they look like, it matches the literal of the conversion and, with
case ignored, what is the same as that folded (`isMatch_iff_sameText`); otherwise it does not even
match the literal (`not_isMatch_literal`).
-/

namespace RecordFilter

/-- The texts are the same; if case is ignored, they are the same folded. -/
def Text.SameText (ignoreCase : Bool) (s t : String) : Prop :=
  if ignoreCase then folded s = folded t else s = t

namespace Like

variable {wild : Char → Prop}

/-- Plain characters that ignore case spell what is the same folded. -/
theorem spells_literals_fold_iff : ∀ {s t : List Char},
    Spells (Same true) wild (s.map Token.literal) t ↔ t.map Text.fold = s.map Text.fold
  | [], t => List.map_eq_nil_iff.symm
  | c :: s, t => by
      constructor
      · rintro ⟨d, rest, rfl, hd, h⟩
        have hfold : Text.fold c = Text.fold d := hd
        rw [List.map_cons, List.map_cons, hfold, spells_literals_fold_iff.mp h]
      · intro h
        cases t with
        | nil => cases h
        | cons d t =>
          obtain ⟨hd, h⟩ := List.cons.inj h
          exact ⟨d, t, rfl, hd.symm, spells_literals_fold_iff.mpr h⟩

/-- **Plain characters alone spell the texts that are the same as theirs.** -/
theorem spells_literals_same_iff {ignoreCase : Bool} {e t : String} :
    Spells (Same ignoreCase) wild (e.toList.map Token.literal) t.toList ↔
      Text.SameText ignoreCase t e := by
  cases ignoreCase with
  | false => exact spells_literals_iff.trans String.toList_inj
  | true => exact spells_literals_fold_iff.trans Text.folded_eq_iff.symm

@[simp] theorem width_literals : ∀ s : List Char, width (s.map .literal) = s.length
  | [] => rfl
  | _ :: s => congrArg Nat.succ (width_literals s)

/-- Escaping a text writes its characters as plain tokens of a pattern. -/
theorem escape_eq (e : String) : escape e = .ofList (render (e.toList.map .literal)) := by
  rw [render, List.flatMap_map]
  rfl

/-- **The pattern of an escaped text has the characters of the text as its tokens.** -/
@[simp] theorem tokens_escape (e : String) : tokens (escape e).toList = e.toList.map .literal := by
  simp [escape_eq]

end Like

/-- **The pattern of an escaped text matches what is the same as the text.** -/
theorem LikePattern.exists_compile_escape (e : String) (ignoreCase : Bool) :
    ∃ q, compile (Like.escape e) ignoreCase = .ok q ∧
      ∀ t, q.isMatch t = true ↔ Text.SameText ignoreCase t e := by
  obtain ⟨q, hq, -, -, hmatch⟩ := exists_compile (Like.escape e) ignoreCase
  refine ⟨q, hq, fun t => (hmatch t).trans ?_⟩
  rw [Like.tokens_escape, ← Like.spells_true_iff]
  exact Like.spells_literals_same_iff

namespace Downgrade

open Like (Token Spells Same width)

/-! ## Rows without runs -/

/-- Of the items of a row those are counted that match one character each. -/
theorem Spans.le_length {trees : List Regex.Tree} {n : Nat} (h : Spans trees n) :
    n ≤ trees.length := by
  induction h with
  | nil => exact Nat.le_refl 0
  | one _ _ ih => exact Nat.succ_le_succ ih
  | run _ _ ih => exact Nat.le_succ_of_le ih

/-- A row without runs matches as many characters as it has. -/
theorem Spans.eq_add_of_matchesAll {trees : List Regex.Tree} {n : Nat} (h : Spans trees n)
    (hlength : trees.length = n) {t : List Char} {i j : Nat}
    (hmatch : Regex.MatchesAll t (trees.map Regex.Tree.regex) i j) : j = i + n := by
  induction h generalizing i with
  | nil => exact hmatch.2.symm
  | one hs _ ih =>
    obtain ⟨k, hk, hrest⟩ := hmatch
    rw [hs] at hk
    obtain ⟨_, _, _, rfl⟩ := hk
    have hj := ih (Nat.succ.inj hlength) hrest
    omega
  | run _ h _ =>
    have hle := h.le_length
    rw [List.length_cons] at hlength
    omega

/-! ## Equalities -/

variable {source : String} {ignoreCase : Bool}

/-- **What becomes an equality is the literal of the conversion between two anchors.** -/
theorem exists_converts_literal (hmode : (convert source ignoreCase).mode = .equals) :
    ∃ body, body = (stripAnchors source.toList).body ∧
      Converts source false false body
        ((convert source ignoreCase).literal.toList.map .literal) := by
  have hconverts : (convert source ignoreCase).mode ≠ .native := by
    rw [hmode]
    decide
  obtain ⟨ts, -, h⟩ := exists_converts hconverts
  obtain ⟨hstart, hend, hts⟩ := h.closed_of_equals hmode
  rw [hstart, hend] at h
  obtain ⟨s, rfl⟩ := Like.exists_eq_map_literal hts
  have hliteral : (convert source ignoreCase).literal = .ofList s := by
    simp [Conversion.literal, Like.unescape, h.source_eq]
  exact ⟨_, rfl, by simpa [hliteral] using h⟩

/-- The pattern of an equality is its literal, escaped. -/
theorem source_eq_escape_literal (hmode : (convert source ignoreCase).mode = .equals) :
    (convert source ignoreCase).source = Like.escape (convert source ignoreCase).literal := by
  obtain ⟨body, -, h⟩ := exists_converts_literal hmode
  simp [Like.escape_eq, ← String.toList_inj, h.source_eq]

@[simp] theorem caseSensitive_convert (source : String) (ignoreCase : Bool) :
    (convert source ignoreCase).caseSensitive = !ignoreCase := by
  unfold convert
  split <;> rfl

end Downgrade

namespace RegexPattern

open Downgrade (convert stripAnchors plainBrackets)

variable {p : RegexPattern}

/-- A compiled expression compiles again to itself. -/
@[simp] theorem compile_self (p : RegexPattern) : compile p.source p.ignoreCase = .ok p := by
  obtain ⟨source, ignoreCase, matcher, hmatcher⟩ := p
  unfold compile
  split
  · next r hr =>
    obtain rfl : r = matcher := Except.ok.inj (hr.symm.trans hmatcher)
    rfl
  · next e he => cases he.symm.trans hmatcher

/-- **With plain brackets, an expression that becomes an equality matches what is the same as the
literal.** -/
theorem isMatch_iff_sameText (hmode : (convert p.source p.ignoreCase).mode = .equals)
    (hplain : plainBrackets (stripAnchors p.source.toList).body = true) (t : String) :
    p.isMatch t = true ↔
      Text.SameText p.ignoreCase t (convert p.source p.ignoreCase).literal := by
  obtain ⟨body, rfl, h⟩ := Downgrade.exists_converts_literal hmode
  rw [h.isMatch_iff p.compile_self hplain, Like.found_closed_iff, Like.spells_literals_same_iff]

/-- **Where brackets are not plain, such an expression matches shorter texts only**, and not the
literal. -/
theorem not_isMatch_literal (hmode : (convert p.source p.ignoreCase).mode = .equals)
    (hplain : plainBrackets (stripAnchors p.source.toList).body = false) :
    p.isMatch (convert p.source p.ignoreCase).literal = false := by
  obtain ⟨body, rfl, h⟩ := Downgrade.exists_converts_literal hmode
  rw [Bool.eq_false_iff]
  intro hmatch
  obtain ⟨trees, n, hspans, hruns, hmore, hrow⟩ := h.exists_row p.compile_self
  obtain ⟨i, j, hall, hi, hj⟩ := (hrow _).mp hmatch
  have hlength := hspans.eq_add_of_matchesAll (hruns (by simp)) hall
  have hlt := hmore hplain
  rw [hi rfl, hj rfl] at hlength
  rw [Like.width_literals] at hlt
  omega

end RegexPattern

end RecordFilter
