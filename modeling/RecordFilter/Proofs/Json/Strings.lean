import RecordFilter.Json.Reader
import RecordFilter.Json.Text

/-!
# Proofs/Json/Strings — a string is read back from its text

Between its quotes a string is written character by character, and every character, escaped or not,
is one round of the reader (`stringRest?_escapeChar`). So a string is read back whatever its
characters are and whatever follows its closing quote (`string?_escaped`).
-/

namespace RecordFilter.Json

open Reader

variable {cs rest : List Char}

/-! ## Code units -/

/-- What follows four hexadecimal digits is left over. -/
theorem codeUnit?_append {n : Nat} (h : codeUnit? cs = some (n, [])) (rest : List Char) :
    codeUnit? (cs ++ rest) = some (n, rest) := by
  rcases cs with _ | ⟨a, _ | ⟨b, _ | ⟨c, _ | ⟨d, cs⟩⟩⟩⟩
  · cases h
  · cases h
  · cases h
  · cases h
  · simp only [codeUnit?, List.cons_append] at h ⊢
    cases hds : [a, b, c, d].mapM Text.hexDigit? with
    | none => simp [hds] at h
    | some ds => simp_all

/-- Four digits are enough for the code of a control character. -/
theorem codeUnit?_hexPadded : ∀ n < 32, codeUnit? (Text.hexPadded 4 n) = some (n, []) := by
  decide

/-- **The code of a control character is read as the character.** -/
theorem codeUnits?_hexPadded {c : Char} (h : c.toNat < 32) (rest : List Char) :
    codeUnits? (Text.hexPadded 4 c.toNat ++ rest) = some (some c, rest) := by
  have hhigh : isHighSurrogate c.toNat = false := by
    rw [isHighSurrogate, Bool.and_eq_false_iff]
    exact .inl (decide_eq_false (by omega))
  have hchar : Text.charOfNat? c.toNat = some c := by
    rw [Text.charOfNat?, Char.ofNat_toNat]
    exact if_pos c.valid
  simp [codeUnits?, codeUnit?_append (codeUnit?_hexPadded _ h), hhigh, hchar]

/-! ## Characters -/

/-- A character in front of what a reader of a string returned. -/
def consChar (c : Char) : Option (List Char) × List Char → Option (List Char) × List Char :=
  Prod.map (Option.map (c :: ·)) id

/-- An escape is one round of the reader. -/
theorem stringRest?_of_escaped? {c : Char} {cs' : List Char} (fuel : Nat)
    (h : escaped? cs = some (some c, cs')) :
    stringRest? (fuel + 1) ('\\' :: cs) = (stringRest? fuel cs').map (consChar c) := by
  rcases hrest : stringRest? fuel cs' with _ | ⟨_ | s, rest⟩ <;>
    simp [stringRest?, h, hrest, consChar]

/-- A character that needs no escape is one round of the reader. -/
theorem stringRest?_of_ne {c : Char} (fuel : Nat) (hquote : c ≠ '"') (hslash : c ≠ '\\')
    (hcode : ¬ c.toNat < 32) (cs : List Char) :
    stringRest? (fuel + 1) (c :: cs) = (stringRest? fuel cs).map (consChar c) := by
  rcases hrest : stringRest? fuel cs with _ | ⟨_ | s, rest⟩ <;>
    simp [stringRest?, hquote, hslash, hcode, hrest, consChar]

/-- **A written character is one round of the reader.** -/
@[simp] theorem stringRest?_escapeChar (fuel : Nat) (c : Char) (cs : List Char) :
    stringRest? (fuel + 1) (escapeChar c ++ cs) = (stringRest? fuel cs).map (consChar c) := by
  unfold escapeChar
  split
  · next h =>
    rcases h with rfl | rfl
    · exact stringRest?_of_escaped? fuel rfl
    · exact stringRest?_of_escaped? fuel rfl
  split
  · next h => exact stringRest?_of_escaped? fuel (h ▸ rfl)
  split
  · next h => exact stringRest?_of_escaped? fuel (h ▸ rfl)
  split
  · next h => exact stringRest?_of_escaped? fuel (h ▸ rfl)
  split
  · next h => exact stringRest?_of_escaped? fuel (h ▸ rfl)
  split
  · next h => exact stringRest?_of_escaped? fuel (h ▸ rfl)
  split
  · next h => exact stringRest?_of_escaped? fuel (codeUnits?_hexPadded h cs)
  · next hquote _ _ _ _ _ hcode =>
    rw [not_or] at hquote
    exact stringRest?_of_ne fuel hquote.1 hquote.2 hcode cs

/-! ## Strings -/

/-- **A string is read back from its text**, up to the closing quote. -/
theorem stringRest?_escaped (s rest : List Char) (fuel : Nat) (h : s.length < fuel) :
    stringRest? fuel (s.flatMap escapeChar ++ '"' :: rest) = some (some s, rest) := by
  induction s generalizing fuel with
  | nil =>
    obtain ⟨fuel, rfl⟩ := Nat.exists_eq_add_one.mpr h
    rfl
  | cons c s ih =>
    obtain ⟨fuel, rfl⟩ := Nat.exists_eq_add_one.mpr (Nat.zero_lt_of_lt h)
    rw [List.flatMap_cons, List.append_assoc, stringRest?_escapeChar, ih fuel (by simpa using h)]
    rfl

theorem one_le_length_escapeChar (c : Char) : 1 ≤ (escapeChar c).length := by
  unfold escapeChar
  repeat' split
  all_goals simp

/-- The reader takes no more rounds than there are characters in the text. -/
theorem length_le_length_escaped (s : List Char) : s.length ≤ (s.flatMap escapeChar).length := by
  induction s with
  | nil => exact Nat.zero_le _
  | cons c s ih =>
    have hc := one_le_length_escapeChar c
    rw [List.flatMap_cons, List.length_append, List.length_cons]
    omega

/-- The reader of strings, given the whole rest of the text as its bound, reads any string. -/
@[simp] theorem string?_escaped (s : String) (rest : List Char) :
    string? (s.toList.flatMap escapeChar ++ '"' :: rest) = some (some s, rest) := by
  have hfuel : s.toList.length < (s.toList.flatMap escapeChar ++ '"' :: rest).length := by
    have hs := length_le_length_escaped s.toList
    rw [List.length_append, List.length_cons]
    omega
  rw [string?, stringRest?_escaped _ _ _ hfuel]
  simp

end RecordFilter.Json
