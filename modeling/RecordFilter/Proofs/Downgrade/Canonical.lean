import RecordFilter.Proofs.Downgrade.Escaped
import RecordFilter.Proofs.Like.Canonical

/-!
# Proofs/Downgrade/Canonical — conversions are wildcard patterns in canonical form

What an expression is converted to is in canonical form, whatever the expression was
(`convert_isCanonical`): backslashes stand before the characters that need one, runs stand apart,
and there are wildcards exactly in what is no equality.

Conversion also undoes the way wildcard patterns are written as expressions: it gives back the
pattern in canonical form (`convert_regexSource`). Only the scans stand in the way, which take a
plain star for a repetition, and plain brackets for a class.
-/

namespace RecordFilter.Downgrade

open Like (Token tokens canonical isCanonical hasWildcard)
open Regex (anchoredText)

/-! ## The form of conversions -/

/-- **An expression stays as it is or becomes a pattern in canonical form**, which has no wildcards
exactly if it is an equality; then it is the escaped literal. -/
theorem convert_isCanonical (source : String) (ignoreCase : Bool) :
    let c := convert source ignoreCase
    c.caseSensitive = !ignoreCase ∧
    (c.mode = .native → c.source = source) ∧
    (c.mode ≠ .native →
      isCanonical c.source.toList = true ∧
      (c.mode = .equals ↔ hasWildcard c.source.toList = false) ∧
      (c.mode = .equals → Like.escape c.literal = c.source)) := by
  refine ⟨caseSensitive_convert source ignoreCase, source_eq_of_native, fun hmode => ?_⟩
  obtain ⟨_, -, hconverts⟩ := exists_converts hmode
  have hsource := hconverts.source_eq ignoreCase
  refine ⟨?_, ?_, fun h => (source_eq_escape_literal h).symm⟩
  · simp [hsource]
  · rw [hsource, Like.hasWildcard_render_eq_false_iff]
    exact hconverts.mode_eq_equals_iff

/-- An equality with every character that needs an escape, and runs beside an open end. -/
theorem convert_isCanonical_special :
    Like.escape (convert "^5%_\\\\$" false).literal = (convert "^5%_\\\\$" false).source ∧
      isCanonical (convert ".*5%.*" true).source.toList = true ∧
      (convert ".*5%.*" true).source = "%5\\%%" := by
  obtain ⟨-, -, hequals⟩ := convert_isCanonical "^5%_\\\\$" false
  obtain ⟨-, -, hlike⟩ := convert_isCanonical ".*5%.*" true
  have hmode : (convert "^5%_\\\\$" false).mode = .equals := by decide
  exact ⟨(hequals (by rw [hmode]; decide)).2.2 hmode, (hlike (by decide)).1, by decide⟩

/-! ## Wildcard patterns and back -/

/-- In written tokens there are their plain characters, and else backslashes, points and stars. -/
theorem literal_mem_of_mem_inRegex {d : Char} {ts : List Token} (hd : d ∉ ['\\', '.', '*'])
    (h : d ∈ ts.flatMap Token.inRegex) : .literal d ∈ ts := by
  simp only [List.mem_cons, List.not_mem_nil, or_false, not_or] at hd
  obtain ⟨hbackslash, hpoint, hstar⟩ := hd
  obtain ⟨tok, htok, hmem⟩ := List.mem_flatMap.mp h
  cases tok with
  | literal c =>
    have hc : d = c := by
      rw [Token.inRegex, Regex.escapeChar] at hmem
      split at hmem <;> simpa [hbackslash] using hmem
    exact hc ▸ htok
  | anyChar => exact absurd (List.mem_singleton.mp hmem) hpoint
  | anyRun => simp [Token.inRegex, hpoint, hstar] at hmem

theorem hasWideClass_of_not_mem {cs : List Char} (h : '[' ∉ cs ∨ ']' ∉ cs) :
    hasWideClass cs = false := by
  rw [← Bool.not_eq_true, hasWideClass_iff]
  rintro ⟨a, b, c, rfl, -, -⟩
  simp at h

variable {pattern : String}

theorem converts_regexSource (hstar : '*' ∉ pattern.toList)
    (hbracket : '[' ∉ pattern.toList ∨ ']' ∉ pattern.toList) :
    Converts (Like.regexSource pattern) false false
      ((tokens pattern.toList).flatMap Token.inRegex) (tokens pattern.toList) := by
  have htext := Like.toList_regexSource pattern
  refine converts_of_tokenize htext (tokenize_inRegex _) ?_ ?_
  · rw [htext, ← Bool.not_eq_true, hasUnconvertibleRepetition_anchoredText]
    exact fun h => hstar (Like.mem_of_literal_mem_tokens h)
  · refine hasWideClass_of_not_mem (hbracket.imp (fun h hmem => h ?_) fun h hmem => h ?_)
    all_goals
      refine Like.mem_of_literal_mem_tokens (literal_mem_of_mem_inRegex (by decide) ?_)
      simpa [htext, anchoredText] using hmem

/-- **A wildcard pattern written as an expression is converted back to its canonical form**, and to
an equality exactly if it has no wildcards. The pattern has no star, and not both brackets, as
plain characters. -/
theorem convert_regexSource (hstar : '*' ∉ pattern.toList)
    (hbracket : '[' ∉ pattern.toList ∨ ']' ∉ pattern.toList) (ignoreCase : Bool) :
    (convert (Like.regexSource pattern) ignoreCase).mode ≠ .native ∧
      (convert (Like.regexSource pattern) ignoreCase).source = canonical pattern ∧
      ((convert (Like.regexSource pattern) ignoreCase).mode = .equals ↔
        hasWildcard pattern.toList = false) := by
  have h := converts_regexSource hstar hbracket
  refine ⟨?_, ?_, ?_⟩
  · rw [Ne, mode_eq_native_iff, h.tokens_eq]
    exact nofun
  · simp [← String.toList_inj, h.source_eq, canonical, Like.canonicalChars_eq]
  · simp [h.mode_eq_equals_iff, Like.hasWildcard_eq_false_iff]

/-- Runs in a row, escapes that are needed and that are not, and a backslash at the very end. -/
theorem convert_regexSource_escapes :
    (convert (Like.regexSource "a%%\\_\\b.%\\") false).mode ≠ .native ∧
      (convert (Like.regexSource "a%%\\_\\b.%\\") false).source = "a%\\_b.%\\\\" := by
  have hstar : '*' ∉ "a%%\\_\\b.%\\".toList := by decide
  have hbracket : '[' ∉ "a%%\\_\\b.%\\".toList := by decide
  obtain ⟨hmode, hsource, -⟩ := convert_regexSource hstar (.inl hbracket) false
  exact ⟨hmode, hsource.trans (by decide)⟩

end RecordFilter.Downgrade
