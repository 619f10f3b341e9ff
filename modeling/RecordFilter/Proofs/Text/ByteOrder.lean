import Mathlib.Data.String.Basic
import Mathlib.Tactic.SplitIfs

/-!
# Proofs/Text/ByteOrder — texts in the order of their bytes

In memory texts are compared character by character, in the order of the code points. Their bytes in
UTF-8 have the same order (`bytes_lt_bytes_iff`): the first byte of a character tells how many there
are, more of them for larger code points, and the payload stands from the highest bits down.
-/

namespace RecordFilter.Text

/-- The bytes of a text in UTF-8. -/
def bytes (s : String) : List UInt8 := s.toUTF8.data.toList

theorem bytes_eq_flatMap (s : String) : bytes s = s.toList.flatMap String.utf8EncodeChar := by
  have h : s.toByteArray = s.toList.utf8Encode := by
    rw [← String.toByteArray_ofList, String.ofList_toList]
  rw [bytes, String.toUTF8_eq_toByteArray, h, List.utf8Encode, List.toList_data_toByteArray]

/-! ## One character -/

theorem cons_ofNat_lt {m n : Nat} (h : m < n) (hn : n < 256) (r r' : List UInt8) :
    UInt8.ofNat m :: r < UInt8.ofNat n :: r' := by
  refine List.cons_lt_cons_iff.mpr (.inl ?_)
  rw [UInt8.lt_iff_toNat_lt, UInt8.toNat_ofNat', UInt8.toNat_ofNat']
  omega

/-- The spelling of numbers below `m` puts smaller numbers first, whatever follows. -/
def KeepsOrder (m : Nat) (spell : Nat → List UInt8) : Prop :=
  ∀ v w, v < w → w < m → ∀ a b, spell v ++ a < spell w ++ b

variable {k m : Nat} {spell spell' : Nat → List UInt8}

/-- A byte that marks the number of bytes in its upper bits. -/
theorem keepsOrder_lead (m mark : Nat) (h : m + mark ≤ 256) :
    KeepsOrder m fun v => [.ofNat (v % m + mark)] := by
  intro v w hlt hw a b
  simp only [Nat.mod_eq_of_lt (Nat.lt_trans hlt hw), Nat.mod_eq_of_lt hw]
  exact cons_ofNat_lt (by omega) (by omega) _ _

/-- **Six more bits go into one more byte**, which decides where the bytes before it agree. -/
theorem KeepsOrder.continue (h : KeepsOrder m spell) :
    KeepsOrder (m * 64) fun v => spell (v / 64) ++ [.ofNat (v % 64 + 128)] := by
  intro v w hlt hw a b
  rw [List.append_assoc, List.append_assoc]
  rcases Nat.lt_or_ge (v / 64) (w / 64) with hdiv | hdiv
  · exact h _ _ hdiv (by omega) _ _
  · have heq : v / 64 = w / 64 := by omega
    rw [heq]
    exact List.append_left_lt (cons_ofNat_lt (by omega) (by omega) _ _)

/-- **Two spellings, one up to a bound and one beyond it**, keep the order together if they do
across the bound. -/
theorem KeepsOrder.glue (h : KeepsOrder (k + 1) spell) (h' : KeepsOrder m spell')
    (hacross : ∀ v w, v ≤ k → k < w → w < m → ∀ a b, spell v ++ a < spell' w ++ b) :
    KeepsOrder m fun v => if v ≤ k then spell v else spell' v := by
  intro v w hlt hw a b
  simp only
  split_ifs with hv hv'
  · exact h v w hlt (Nat.lt_succ_of_le hv') a b
  · exact hacross v w hv (Nat.lt_of_not_le hv') hw a b
  · omega
  · exact h' v w hlt hw a b

/-- **Smaller code points have smaller bytes.** Of as many bytes the payload decides, of fewer and
more the first byte. -/
theorem keepsOrder_utf8 : KeepsOrder 0x110000 fun v =>
    if v ≤ 127 then [.ofNat v]
    else if v ≤ 2047 then [.ofNat (v / 64 % 32 + 192), .ofNat (v % 64 + 128)]
    else if v ≤ 65535 then
      [.ofNat (v / 4096 % 16 + 224), .ofNat (v / 64 % 64 + 128), .ofNat (v % 64 + 128)]
    else [.ofNat (v / 262144 % 8 + 240), .ofNat (v / 4096 % 64 + 128),
      .ofNat (v / 64 % 64 + 128), .ofNat (v % 64 + 128)] := by
  refine .glue ?one (.glue ?two (.glue ?three ?four ?_) ?_) ?_
  case one => exact fun v w hlt hw a b => cons_ofNat_lt hlt (by omega) a b
  case two => exact (keepsOrder_lead 32 192 (by decide)).continue
  case three =>
    intro v w hlt hw a b
    have h := (keepsOrder_lead 16 224 (by decide)).continue.continue v w hlt hw a b
    simpa [Nat.div_div_eq_div_mul] using h
  case four =>
    intro v w hlt hw a b
    have h := (keepsOrder_lead 8 240 (by decide)).continue.continue.continue
      v w hlt (by omega) a b
    simpa [Nat.div_div_eq_div_mul] using h
  · exact fun v w hv hw hm a b => cons_ofNat_lt (by omega) (by omega) _ _
  · intro v w hv hw hm a b
    split_ifs <;> exact cons_ofNat_lt (by omega) (by omega) _ _
  · intro v w hv hw hm a b
    split_ifs <;> exact cons_ofNat_lt (by omega) (by omega) _ _

/-- A smaller character has smaller bytes, whatever follows either. -/
theorem utf8EncodeChar_append_lt {c d : Char} (h : c < d) (a b : List UInt8) :
    String.utf8EncodeChar c ++ a < String.utf8EncodeChar d ++ b :=
  keepsOrder_utf8 c.val.toNat d.val.toNat h
    (d.valid.elim (fun hd => Nat.lt_trans hd (by decide)) (·.2)) a b

theorem flatMap_utf8EncodeChar_lt : ∀ {s t : List Char}, s < t →
    s.flatMap String.utf8EncodeChar < t.flatMap String.utf8EncodeChar
  | _, [], h => absurd h (List.not_lt_nil _)
  | [], d :: t, _ => by
      obtain ⟨b, r, hb⟩ := List.exists_cons_of_ne_nil (String.utf8EncodeChar_ne_nil (c := d))
      rw [List.flatMap_nil, List.flatMap_cons, hb]
      exact List.nil_lt_cons _ _
  | c :: s, d :: t, h => by
      rw [List.flatMap_cons, List.flatMap_cons]
      rcases List.cons_lt_cons_iff.mp h with hlt | ⟨rfl, hrest⟩
      · exact utf8EncodeChar_append_lt hlt _ _
      · exact List.append_left_lt (flatMap_utf8EncodeChar_lt hrest)

/-- **Texts have the order of their bytes.** -/
@[simp] theorem bytes_lt_bytes_iff {s t : String} : bytes s < bytes t ↔ s < t := by
  rw [String.lt_iff_toList_lt, bytes_eq_flatMap, bytes_eq_flatMap]
  refine ⟨fun h => ?_, flatMap_utf8EncodeChar_lt⟩
  rcases lt_trichotomy s.toList t.toList with hlt | heq | hgt
  · exact hlt
  · exact absurd (heq ▸ h) (List.lt_irrefl _)
  · exact absurd (flatMap_utf8EncodeChar_lt hgt) (List.lt_asymm h)

end RecordFilter.Text
