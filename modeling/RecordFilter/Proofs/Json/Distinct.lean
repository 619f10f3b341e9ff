import RecordFilter.Proofs.Json.Doubles
import RecordFilter.Proofs.Json.Trees

/-!
# Proofs/Json/Distinct — different trees have different texts

The first character of a text tells the kind of the tree (`Written.exists_cons`), and each kind of
text tells where it ends. So two texts that start with different trees differ, whatever follows them
(`Written.toldApart`). The reader of trees is of no use here, since it may read two doubles as one;
the texts of numbers are told apart by their numerals (`Written.eq_of_numeral`).
-/

namespace RecordFilter.Json

open Reader

variable {j k : Json} {cs rest rest' : List Char}

/-- A tree that was written from something: no part of it is unreadable, and its doubles are
finite. -/
inductive Written : Json → Prop
  | null : Written null
  | bool (b : Bool) : Written (bool b)
  | int (n : Int) : Written (int n)
  | float {x : Double} (h : x.isFinite = true) : Written (float x)
  | str (s : String) : Written (str s)
  | arr {items : List Json} (h : ∀ j ∈ items, Written j) : Written (arr items)
  | obj {members : List (String × Json)} (h : ∀ m ∈ members, Written m.2) : Written (obj members)

/-- The texts of two things are the same only if the things are, whatever follows the texts. -/
def ToldApart {α : Type} (write : α → String) (a b : α) : Prop :=
  ∀ rest rest' : List Char, EndsNumber rest → EndsNumber rest' →
    (write a).toList ++ rest = (write b).toList ++ rest' → a = b ∧ rest = rest'

/-! ## First characters -/

/-- What a tree is, as far as its first character tells. -/
inductive Kind
  | null
  | truth
  | number
  | string
  | array
  | object
deriving DecidableEq

/-- The kind of trees whose texts start with the character. -/
def kindOf (c : Char) : Option Kind :=
  if c = 'n' then some .null
  else if c = 't' ∨ c = 'f' then some .truth
  else if c = '"' then some .string
  else if c = '[' then some .array
  else if c = '\x7b' then some .object
  else if c = '-' ∨ c.isDigit then some .number
  else none

/-- The kind of a tree; an unreadable part is written as null. -/
def kind : Json → Kind
  | bool _ => .truth
  | int _ => .number
  | float _ => .number
  | str _ => .string
  | arr _ => .array
  | obj _ => .object
  | _ => .null

/-- A sign or a digit starts a number. -/
theorem kindOf_of_isDigit {c : Char} (h : c = '-' ∨ c.isDigit = true) :
    kindOf c = some .number := by
  have hne : ∀ d : Char, d ≠ '-' → d.isDigit = false → c ≠ d := by
    rintro d hd hdigit rfl
    rcases h with h | h
    · exact hd h
    · rw [hdigit] at h
      cases h
  rw [kindOf, if_neg (hne 'n' (by decide) rfl), if_neg, if_neg (hne '"' (by decide) rfl),
    if_neg (hne '[' (by decide) rfl), if_neg (hne '\x7b' (by decide) rfl), if_pos h]
  exact not_or.mpr ⟨hne 't' (by decide) rfl, hne 'f' (by decide) rfl⟩

/-- The numeral that a number is written as. -/
theorem Written.exists_numeral (h : Written j) (hkind : j.kind = .number) :
    ∃ n : Numeral, numeral? j.text.toList = some (n, []) := by
  cases h with
  | int n => exact ⟨_, numeral?_int n⟩
  | float h =>
    obtain ⟨n, hn, -⟩ := numeral?_text h
    exact ⟨n, hn⟩
  | _ => cases hkind

theorem toList_text_arr (items : List Json) : (arr items).text.toList =
    '[' :: ((",".intercalate (itemTexts items)).toList ++ [']']) := by
  rw [text, String.toList_append, String.toList_append]
  rfl

theorem toList_text_obj (members : List (String × Json)) : (obj members).text.toList =
    '\x7b' :: ((",".intercalate (memberTexts members)).toList ++ ['\x7d']) := by
  rw [text, String.toList_append, String.toList_append]
  rfl

/-- **The first character of a text tells the kind of the tree.** -/
theorem Written.exists_cons (h : Written j) :
    ∃ c cs, j.text.toList = c :: cs ∧ kindOf c = some j.kind := by
  have hnumber : j.kind = .number → ∃ c cs, j.text.toList = c :: cs ∧ kindOf c = some j.kind := by
    intro hkind
    obtain ⟨n, hn⟩ := h.exists_numeral hkind
    obtain ⟨c, cs, hcs, hc⟩ := numeral?_cons hn
    exact ⟨c, cs, hcs, by rw [hkind, kindOf_of_isDigit hc]⟩
  cases h with
  | null => exact ⟨'n', _, rfl, rfl⟩
  | bool b => cases b <;> exact ⟨_, _, rfl, rfl⟩
  | int n => exact hnumber rfl
  | float h => exact hnumber rfl
  | str s => exact ⟨'"', s.toList.flatMap escapeChar ++ ['"'], by simp [text, stringText], rfl⟩
  | arr h => exact ⟨'[', _, toList_text_arr _, rfl⟩
  | obj h => exact ⟨'\x7b', _, toList_text_obj _, rfl⟩

/-- Texts that go on to be the same start with trees of one kind. -/
theorem Written.kind_eq (hj : Written j) (hk : Written k)
    (h : j.text.toList ++ rest = k.text.toList ++ rest') : j.kind = k.kind := by
  obtain ⟨c, cs, hc, hkind⟩ := hj.exists_cons
  obtain ⟨d, ds, hd, hkind'⟩ := hk.exists_cons
  rw [hc, hd, List.cons_append, List.cons_append] at h
  obtain rfl := (List.cons.inj h).1
  exact Option.some.inj (hkind.symm.trans hkind')

/-! ## Parts of trees -/

/-- A string is told from its text, since reading it gives the string and what follows. -/
theorem stringText_inj {s t : String}
    (h : (stringText s).toList ++ rest = (stringText t).toList ++ rest') :
    s = t ∧ rest = rest' := by
  rw [stringText_append, stringText_append] at h
  have hread := string?_escaped s rest
  rw [(List.cons.inj h).2, string?_escaped] at hread
  simp only [Option.some.injEq, Prod.mk.injEq] at hread
  exact ⟨hread.1.symm, hread.2.symm⟩

/-- An integer is told from its sign and its digits. -/
theorem eq_of_plainNumeral_eq {m n : Int}
    (h : plainNumeral (m < 0) m.natAbs = plainNumeral (n < 0) n.natAbs) : m = n := by
  have hsign : decide (m < 0) = decide (n < 0) := congrArg Numeral.negative h
  have hdigits : digitValues m.natAbs = digitValues n.natAbs := congrArg Numeral.whole h
  have hvalue : m.natAbs = n.natAbs := by
    rw [← ofDigits_digitValues m.natAbs, hdigits, ofDigits_digitValues]
  rw [decide_eq_decide] at hsign
  omega

/-- **The numeral tells which number was written**, and whether as an integer or as a double. -/
theorem Written.eq_of_numeral (hj : Written j) (hk : Written k) (hkind : j.kind = .number)
    (hkind' : k.kind = .number) {n : Numeral} (hn : numeral? j.text.toList = some (n, []))
    (hn' : numeral? k.text.toList = some (n, [])) : j = k := by
  have hint : ∀ {m : Int}, numeral? (Json.int m).text.toList = some (n, []) →
      n = plainNumeral (m < 0) m.natAbs := fun hm =>
    (Prod.mk.inj (Option.some.inj (hm.symm.trans (numeral?_int _)))).1
  have hfloat : ∀ {x : Double}, x.isFinite = true →
      numeral? (Json.float x).text.toList = some (n, []) →
      n.negative = x.isNegative ∧ n.plain = false ∧ n.size = (x.decimal .even).toRat := by
    intro x hx hm
    obtain ⟨n', hn', hparts⟩ := numeral?_text hx
    obtain rfl := (Prod.mk.inj (Option.some.inj (hm.symm.trans hn'))).1
    exact hparts
  cases hj with
  | int m =>
    obtain rfl := hint hn
    cases hk with
    | int m' => rw [eq_of_plainNumeral_eq (hint hn')]
    | float h => cases (hfloat h hn').2.1
    | _ => cases hkind'
  | float h =>
    obtain ⟨hsign, hplain, hsize⟩ := hfloat h hn
    cases hk with
    | int m =>
      obtain rfl := hint hn'
      cases hplain
    | float h' =>
      obtain ⟨hsign', -, hsize'⟩ := hfloat h' hn'
      rw [Double.eq_of_decimal_eq (hsign.symm.trans hsign') (hsize.symm.trans hsize')]
    | _ => cases hkind'
  | _ => cases hkind

/-- **Numbers are told apart**: the reader finds where each ends, and its numeral tells the rest. -/
theorem toldApart_number (hj : Written j) (hk : Written k) (hkind : j.kind = .number)
    (hkind' : k.kind = .number) : ToldApart text j k := by
  intro rest rest' hrest hrest' h
  obtain ⟨n, hn⟩ := hj.exists_numeral hkind
  obtain ⟨n', hn'⟩ := hk.exists_numeral hkind'
  have hread := numeral?_append hrest j.text.toList
  rw [h, numeral?_append hrest', hn, hn'] at hread
  simp only [Option.map_some, followedBy, List.nil_append, Option.some.injEq,
    Prod.mk.injEq] at hread
  obtain ⟨rfl, rfl⟩ := hread
  exact ⟨hj.eq_of_numeral hk hkind hkind' hn hn', rfl⟩

/-! ## Lists of parts -/

section Lists

variable {α : Type} {write : α → String} {close : Char}

/-- What follows a part: the end of the list, or a comma and the other parts. -/
def following (write : α → String) (close : Char) : List α → List Char → List Char
  | [], rest => close :: rest
  | a :: as, rest => ',' :: ((",".intercalate ((a :: as).map write)).toList ++ close :: rest)

/-- A list is its first part and what follows that. -/
theorem intercalate_cons (write : α → String) (close : Char) (a : α) (as : List α)
    (rest : List Char) : (",".intercalate ((a :: as).map write)).toList ++ close :: rest =
      (write a).toList ++ following write close as rest := by
  rcases as with _ | ⟨b, as⟩
  · rw [List.map_cons, List.map_nil, String.intercalate_singleton, following]
  · rw [List.map_cons, List.map_cons, String.intercalate_cons_cons, String.toList_append,
      String.toList_append, List.append_assoc, List.append_assoc, following, List.map_cons]
    rfl

theorem endsNumber_following (hclose : close = ']' ∨ close = '\x7d') (as : List α)
    (rest : List Char) : EndsNumber (following write close as rest) := by
  rcases as with _ | ⟨a, as⟩
  · exact endsNumber_cons (.inr hclose) rest
  · exact endsNumber_cons (.inl rfl) _

/-- The text of a part starts with another character than the one that ends the list. -/
def Opens (write : α → String) (close : Char) (a : α) : Prop :=
  ∃ c cs, (write a).toList = c :: cs ∧ c ≠ close

/-- A list that ends at once is not one that goes on with a part. -/
theorem Opens.cons_ne_append {a : α} (h : Opens write close a) (rest tail : List Char) :
    close :: rest ≠ (write a).toList ++ tail := by
  obtain ⟨c, cs, hc, hne⟩ := h
  rw [hc, List.cons_append]
  exact fun heq => hne (List.cons.inj heq).1.symm

/-- **A list is told from its text** if its parts are. -/
theorem eq_of_intercalate_eq (hclose : close = ']' ∨ close = '\x7d') {as bs : List α}
    (has : ∀ a ∈ as, Opens write close a) (hbs : ∀ b ∈ bs, Opens write close b)
    (hparts : ∀ a ∈ as, ∀ b ∈ bs, ToldApart write a b)
    (h : (",".intercalate (as.map write)).toList ++ close :: rest =
      (",".intercalate (bs.map write)).toList ++ close :: rest') : as = bs ∧ rest = rest' := by
  have hcomma : close ≠ ',' := by rcases hclose with rfl | rfl <;> decide
  induction as generalizing bs with
  | nil =>
    rcases bs with _ | ⟨b, bs⟩
    · exact ⟨rfl, (List.cons.inj h).2⟩
    · rw [intercalate_cons] at h
      exact absurd h ((hbs b List.mem_cons_self).cons_ne_append _ _)
  | cons a as ih =>
    rcases bs with _ | ⟨b, bs⟩
    · rw [intercalate_cons] at h
      exact absurd h.symm ((has a List.mem_cons_self).cons_ne_append _ _)
    · rw [intercalate_cons, intercalate_cons] at h
      obtain ⟨rfl, hfollowing⟩ := hparts a List.mem_cons_self b List.mem_cons_self _ _
        (endsNumber_following hclose as rest) (endsNumber_following hclose bs rest') h
      have hrest := ih (fun a ha => has a (List.mem_cons_of_mem _ ha))
        (fun b hb => hbs b (List.mem_cons_of_mem _ hb))
        (fun a ha b hb => hparts a (List.mem_cons_of_mem _ ha) b (List.mem_cons_of_mem _ hb))
      rcases as with _ | ⟨a', as⟩
      · rcases bs with _ | ⟨b', bs⟩
        · exact ⟨rfl, (List.cons.inj hfollowing).2⟩
        · exact absurd (List.cons.inj hfollowing).1 hcomma
      · rcases bs with _ | ⟨b', bs⟩
        · exact absurd (List.cons.inj hfollowing).1.symm hcomma
        · obtain ⟨heq, hleft⟩ := hrest (List.cons.inj hfollowing).2
          exact ⟨congrArg (a :: ·) heq, hleft⟩

end Lists

@[simp] theorem itemTexts_eq_map (items : List Json) : itemTexts items = items.map text := by
  induction items with
  | nil => rfl
  | cons j items ih => rw [itemTexts, ih, List.map_cons]

/-- The text of a member, with its key. -/
def memberText (m : String × Json) : String := stringText m.1 ++ ":" ++ text m.2

@[simp] theorem memberTexts_eq_map (members : List (String × Json)) :
    memberTexts members = members.map memberText := by
  induction members with
  | nil => rfl
  | cons m members ih => rw [memberTexts, ih, List.map_cons, memberText]

/-- Members are told apart, first by their keys and then by what these hold. -/
theorem toldApart_memberText {m m' : String × Json} (h : ToldApart text m.2 m'.2) :
    ToldApart memberText m m' := by
  obtain ⟨key, j⟩ := m
  obtain ⟨key', j'⟩ := m'
  intro rest rest' hrest hrest' heq
  simp only [memberText, String.toList_append, List.append_assoc] at heq
  obtain ⟨rfl, hbehind⟩ := stringText_inj heq
  obtain ⟨rfl, hleft⟩ := h rest rest' hrest hrest' (List.append_cancel_left hbehind)
  exact ⟨rfl, hleft⟩

/-! ## Whole trees -/

theorem Written.opens_text (h : Written j) : Opens text ']' j := by
  obtain ⟨c, cs, hc, hkind⟩ := h.exists_cons
  refine ⟨c, cs, hc, ?_⟩
  rintro rfl
  cases hkind

theorem opens_memberText (m : String × Json) : Opens memberText '\x7d' m := by
  have htext : (memberText m).toList = '"' :: (m.1.toList.flatMap escapeChar ++
      '"' :: (":".toList ++ (text m.2).toList)) := by
    rw [memberText, String.toList_append, String.toList_append, List.append_assoc,
      stringText_append]
  exact ⟨'"', _, htext, by decide⟩

/-- **Trees are told apart by their texts**, whatever follows them. -/
theorem Written.toldApart (hj : Written j) (hk : Written k) : ToldApart text j k := by
  -- the texts that follow vary in the induction: behind an item stand the items after it
  induction hj generalizing k with
  | null =>
    intro rest rest' _ _ h
    have hkind := Written.null.kind_eq hk h
    cases hk with
    | null => exact ⟨rfl, List.append_cancel_left h⟩
    | _ => cases hkind
  | bool b =>
    intro rest rest' _ _ h
    have hkind := (Written.bool b).kind_eq hk h
    cases hk with
    | bool b' => cases b <;> cases b' <;> simp_all [text]
    | _ => cases hkind
  | int n =>
    intro rest rest' hrest hrest' h
    have hkind := (Written.int n).kind_eq hk h
    exact toldApart_number (.int n) hk rfl hkind.symm rest rest' hrest hrest' h
  | float hx =>
    intro rest rest' hrest hrest' h
    have hkind := (Written.float hx).kind_eq hk h
    exact toldApart_number (.float hx) hk rfl hkind.symm rest rest' hrest hrest' h
  | str s =>
    intro rest rest' _ _ h
    have hkind := (Written.str s).kind_eq hk h
    cases hk with
    | str t =>
      obtain ⟨rfl, hleft⟩ := stringText_inj h
      exact ⟨rfl, hleft⟩
    | _ => cases hkind
  | @arr items hitems ih =>
    intro rest rest' _ _ h
    have hkind := (Written.arr hitems).kind_eq hk h
    cases hk with
    | @arr items' hitems' =>
      rw [toList_text_arr, toList_text_arr, itemTexts_eq_map, itemTexts_eq_map] at h
      simp only [List.cons_append, List.append_assoc, List.nil_append, List.cons.injEq,
        true_and] at h
      obtain ⟨rfl, hleft⟩ := eq_of_intercalate_eq (.inl rfl)
        (fun j hj => (hitems j hj).opens_text) (fun j hj => (hitems' j hj).opens_text)
        (fun j hj k hk => ih j hj (hitems' k hk)) h
      exact ⟨rfl, hleft⟩
    | _ => cases hkind
  | @obj members hmembers ih =>
    intro rest rest' _ _ h
    have hkind := (Written.obj hmembers).kind_eq hk h
    cases hk with
    | @obj members' hmembers' =>
      rw [toList_text_obj, toList_text_obj, memberTexts_eq_map, memberTexts_eq_map] at h
      simp only [List.cons_append, List.append_assoc, List.nil_append, List.cons.injEq,
        true_and] at h
      obtain ⟨rfl, hleft⟩ := eq_of_intercalate_eq (.inr rfl)
        (fun m _ => opens_memberText m) (fun m _ => opens_memberText m)
        (fun m hm m' hm' => toldApart_memberText (ih m hm (hmembers' m' hm'))) h
      exact ⟨rfl, hleft⟩
    | _ => cases hkind

/-- **Different trees have different texts.** -/
theorem Written.eq_of_text_eq (hj : Written j) (hk : Written k) (h : j.text = k.text) : j = k :=
  (hj.toldApart hk [] [] endsNumber_nil endsNumber_nil (by rw [h])).1

end RecordFilter.Json
