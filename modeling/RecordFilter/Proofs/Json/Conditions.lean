import RecordFilter.Json.Conditions
import RecordFilter.Proofs.Json.Distinct
import RecordFilter.Proofs.Json.RoundTrip
import RecordFilter.Proofs.Operator.Interchange

/-!
# Proofs/Json/Conditions — a condition set is told from its text

Different trees have different texts, so the tree of a condition set is all that has to be looked
at. Values and ranges are read back from their trees. Operators are written only, with patterns as
their texts: there the kind of an operator tells whether a wildcard pattern ignores case, and the
last character tells it of a regular expression (`RegexPattern.diagnostic_eq_iff`).
-/

namespace RecordFilter

/-! ## Forms -/

/-- **What a form is read as tells what was written.** -/
theorem eq_of_ofJson?_toJson {α : Type} {toJson : α → Json} {ofJson? : Json → Option α} {a b : α}
    (ha : ofJson? (toJson a) = some a) (hb : ofJson? (toJson b) = some b)
    (h : toJson a = toJson b) : a = b := by
  rw [h, hb] at ha
  exact (Option.some.inj ha).symm

namespace Json

/-- A variant has a text if its content has one. -/
theorem Written.variant {content : Json} (h : content.Written) (name : String) :
    (Json.variant name content).Written :=
  .obj fun m hm => by
    rw [List.mem_singleton] at hm
    rwa [hm]

/-- Variants are told by their name and their content. -/
@[simp] theorem variant_inj {name name' : String} {content content' : Json} :
    variant name content = variant name' content' ↔ name = name' ∧ content = content' := by
  simp [variant]

/-- What is written one by one is told item by item. -/
theorem eq_of_map_eq {α β : Type} {write : α → β} {as bs : List α}
    (hwrite : ∀ a ∈ as, ∀ b ∈ bs, write a = write b → a = b) (h : as.map write = bs.map write) :
    as = bs := by
  induction as generalizing bs with
  | nil => exact (List.map_eq_nil_iff.mp h.symm).symm
  | cons a as ih =>
    rcases bs with _ | ⟨b, bs⟩
    · cases h
    · rw [List.map_cons, List.map_cons, List.cons.injEq] at h
      rw [hwrite a List.mem_cons_self b List.mem_cons_self h.1,
        ih (fun a ha b hb => hwrite a (List.mem_cons_of_mem _ ha) b (List.mem_cons_of_mem _ hb))
          h.2]

end Json

namespace Value

variable {v w : Value}

/-- The tree of a value has a text, also where a double is written as null. -/
theorem written_toJson (v : Value) : v.toJson.Written := by
  cases v with
  | null => exact .str "Null"
  | bool b => exact .variant (.bool b) "Bool"
  | int n => exact .variant (.int n.toInt) "Int"
  | float x =>
    refine .variant ?_ "Float"
    rw [Json.ofDouble]
    split
    · next h => exact .float h
    · exact .null
  | str s => exact .variant (.str s) "Str"

/-- **Values with finite doubles are told from their trees**, since each is read back. -/
theorem eq_of_toJson_eq (hxs : ∀ x ∈ v.doubles, x.isFinite = true)
    (hys : ∀ y ∈ w.doubles, y.isFinite = true) (h : v.toJson = w.toJson) : v = w :=
  eq_of_ofJson?_toJson (ofJson?_toJson hxs) (ofJson?_toJson hys) h

end Value

namespace Bound

theorem written_toJson (b : Bound) : b.toJson.Written := by
  cases b with
  | included v => exact .variant v.written_toJson "Included"
  | excluded v => exact .variant v.written_toJson "Excluded"
  | unbounded => exact .str "Unbounded"

end Bound

namespace Range

theorem written_toJson (r : Range) : r.toJson.Written :=
  .obj (by simpa using ⟨r.start.written_toJson, r.stop.written_toJson⟩)

end Range

/-! ## Patterns -/

namespace RegexPattern

variable {p q : RegexPattern}

/-- The text of an expression, character by character, with one letter behind it if case does not
count. -/
@[simp] theorem toList_diagnostic (p : RegexPattern) : p.diagnostic.toList =
    '/' :: (p.source.toList ++ if p.ignoreCase then ['/', 'i'] else ['/']) := by
  cases h : p.ignoreCase <;> simp [diagnostic, h]

/-- The last character tells whether case counts. -/
theorem getLast?_diagnostic (p : RegexPattern) :
    p.diagnostic.toList.getLast? = some (if p.ignoreCase then 'i' else '/') := by
  rw [toList_diagnostic]
  cases p.ignoreCase <;> simp [List.getLast?_cons]

/-- **The text of a regular expression tells its source and whether it ignores case**, whatever
slashes the source has: its last character is a slash only if case counts. -/
@[simp] theorem diagnostic_eq_iff : p.diagnostic = q.diagnostic ↔
    p.source = q.source ∧ p.ignoreCase = q.ignoreCase := by
  constructor
  · intro h
    have hcase : p.ignoreCase = q.ignoreCase := by
      have hlast := getLast?_diagnostic p
      rw [h, getLast?_diagnostic] at hlast
      cases hp : p.ignoreCase <;> cases hq : q.ignoreCase <;> simp [hp, hq] at hlast ⊢
    have hlist := congrArg String.toList h
    rw [toList_diagnostic, toList_diagnostic, hcase, List.cons.injEq] at hlist
    exact ⟨String.toList_inj.mp (List.append_cancel_right hlist.2), hcase⟩
  · rintro ⟨hsource, hcase⟩
    rw [diagnostic, hsource, hcase, diagnostic]

end RegexPattern

/-! ## Operators -/

namespace OperatorKind

theorem mem_all (k : OperatorKind) : k ∈ all := by
  cases k with
  | ordered i => cases i <;> decide
  | _ => decide

/-- **Kinds are told from their names.** -/
theorem name_injective {k l : OperatorKind} (h : k.name = l.name) : k = l := by
  have hall : ∀ k ∈ all, ∀ l ∈ all, k.name = l.name → k = l := by decide
  exact hall k k.mem_all l l.mem_all h

end OperatorKind

namespace Operator

variable {a b : Operator}

/-- The operator comes from a constructor of operators, or is a regular expression that was
compiled. -/
inductive Built : Operator → Prop
  | constructed {o : Operator} (h : o.Constructed) : Built o
  | regex (p : RegexPattern) : Built (regex p)

/-- A pattern ignores case exactly if it is that of the kind which does, so the kind tells the
flag. -/
theorem Built.ignoreCase_eq (ha : a.Built) {p : LikePattern} (hp : a.likePattern? = some p) :
    p.ignoreCase = decide (a.kind = .likeIgnoreCase) := by
  cases ha with
  | constructed h => exact h.ignoreCase_eq hp
  | regex q => cases hp

/-- The doubles in the operand of an operator. -/
def doubles : Operator → List Double
  | ordered _ v => v.doubles
  | equalsIgnoreCase v => v.doubles
  | _ => []

/-- The tree of an operator has a text: patterns are written as texts. -/
theorem written_toJson (o : Operator) : o.toJson.Written := by
  refine .variant ?_ _
  cases o with
  | ordered i v => exact v.written_toJson
  | equalsIgnoreCase v => exact v.written_toJson
  | like p => exact .str _
  | notLike p => exact .str _
  | likeIgnoreCase p => exact .str _
  | regex p => exact .str _

/-- **An operator is told from its form**: the kind tells whether a wildcard pattern ignores
case. -/
theorem eq_of_toJson_eq (ha : a.Built) (hb : b.Built) (hxs : ∀ x ∈ a.doubles, x.isFinite = true)
    (hys : ∀ y ∈ b.doubles, y.isFinite = true) (h : a.toJson = b.toJson) : a = b := by
  obtain ⟨hname, hoperand⟩ := Json.variant_inj.mp h
  have hkind := OperatorKind.name_injective hname
  have hlike : ∀ {p q : LikePattern}, a.likePattern? = some p → b.likePattern? = some q →
      Json.str p.pattern = .str q.pattern → p = q := fun hp hq hpattern =>
    LikePattern.eq_of_pattern_eq (Json.str.inj hpattern)
      (by rw [ha.ignoreCase_eq hp, hb.ignoreCase_eq hq, hkind])
  cases a with
  | ordered i v =>
    cases b with
    | ordered j w =>
      rw [OperatorKind.ordered.inj hkind, Value.eq_of_toJson_eq hxs hys hoperand]
    | _ => cases hkind
  | equalsIgnoreCase v =>
    cases b with
    | equalsIgnoreCase w => rw [Value.eq_of_toJson_eq hxs hys hoperand]
    | _ => cases hkind
  | like p =>
    cases b with
    | like q => rw [hlike rfl rfl hoperand]
    | _ => cases hkind
  | notLike p =>
    cases b with
    | notLike q => rw [hlike rfl rfl hoperand]
    | _ => cases hkind
  | likeIgnoreCase p =>
    cases b with
    | likeIgnoreCase q => rw [hlike rfl rfl hoperand]
    | _ => cases hkind
  | regex p =>
    cases b with
    | regex q =>
      obtain ⟨hsource, hcase⟩ := RegexPattern.diagnostic_eq_iff.mp (Json.str.inj hoperand)
      have hsame : p.sameAs q = true := by simp [RegexPattern.sameAs, hsource, hcase]
      rw [RegexPattern.eq_of_sameAs hsame]
    | _ => cases hkind

/-- An operator is the same as itself unless its operand is NaN. -/
theorem sameAs_self {o : Operator} (h : ∀ x ∈ o.doubles, x.isFinite = true) :
    o.sameAs o = true := by
  cases o with
  | ordered i v => simp [sameAs, Value.sameAs_self_of_isFinite h]
  | equalsIgnoreCase v => exact Value.sameAs_self_of_isFinite h
  | _ => simp [sameAs, LikePattern.sameAs, RegexPattern.sameAs]

end Operator

/-! ## Conditions -/

namespace Condition

variable {c d : Condition}

/-- The operator of the condition, if it has one, comes from a constructor. -/
def Built : Condition → Prop
  | operator o => o.Built
  | _ => True

/-- The doubles in the operands of a condition. -/
def doubles : Condition → List Double
  | equals v => v.doubles
  | isNull => []
  | oneOf vs => vs.flatMap Value.doubles
  | within r => r.doubles
  | operator o => o.doubles

theorem written_toJson (c : Condition) : c.toJson.Written := by
  cases c with
  | equals v => exact .variant v.written_toJson "Equals"
  | isNull => exact .str "Null"
  | oneOf vs => exact .variant (.arr (List.forall_mem_map.mpr fun v _ => v.written_toJson)) "In"
  | within r => exact .variant r.written_toJson "Range"
  | operator o => exact .variant o.written_toJson "Operator"

/-- **Conditions are told from their trees**: the form by the name of the variant, then the
operands. -/
theorem eq_of_toJson_eq (hc : c.Built) (hd : d.Built) (hxs : ∀ x ∈ c.doubles, x.isFinite = true)
    (hys : ∀ y ∈ d.doubles, y.isFinite = true) (h : c.toJson = d.toJson) : c = d := by
  cases c with
  | equals v =>
    cases d with
    | equals w => rw [Value.eq_of_toJson_eq hxs hys (Json.variant_inj.mp h).2]
    | _ => simp [toJson, Json.variant] at h
  | isNull =>
    cases d with
    | isNull => rfl
    | _ => simp [toJson, Json.variant] at h
  | oneOf vs =>
    cases d with
    | oneOf ws =>
      have hcontent := Json.arr.inj (Json.variant_inj.mp h).2
      rw [Json.eq_of_map_eq ?_ hcontent]
      intro v hv w hw
      exact Value.eq_of_toJson_eq (fun x hx => hxs x (List.mem_flatMap.mpr ⟨v, hv, hx⟩))
        fun y hy => hys y (List.mem_flatMap.mpr ⟨w, hw, hy⟩)
    | _ => simp [toJson, Json.variant] at h
  | within r =>
    cases d with
    | within s =>
      have hcontent := (Json.variant_inj.mp h).2
      rw [eq_of_ofJson?_toJson (Range.ofJson?_toJson hxs) (Range.ofJson?_toJson hys) hcontent]
    | _ => simp [toJson, Json.variant] at h
  | operator o =>
    cases d with
    | operator o' => rw [Operator.eq_of_toJson_eq hc hd hxs hys (Json.variant_inj.mp h).2]
    | _ => simp [toJson, Json.variant] at h

/-- A condition is the same as itself unless NaN is among its operands. -/
theorem sameAs_self (h : ∀ x ∈ c.doubles, x.isFinite = true) : c.sameAs c = true := by
  cases c with
  | equals v => exact Value.sameAs_self_of_isFinite h
  | isNull => rfl
  | oneOf vs =>
    have hvalues : ∀ v ∈ vs, v.sameAs v = true := fun v hv =>
      Value.sameAs_self_of_isFinite fun x hx => h x (List.mem_flatMap.mpr ⟨v, hv, hx⟩)
    have hzip : ((vs.zip vs).all fun p => p.1.sameAs p.2) = true := all_zip_self hvalues
    simp [sameAs, hzip]
  | within r => exact Range.sameAs_self_of_isFinite h
  | operator o => exact Operator.sameAs_self h

end Condition

namespace Conditions

variable {cs ds : Conditions}

/-- The doubles in all conditions of a set. -/
def doubles (cs : Conditions) : List Double := cs.entries.flatMap fun e => e.2.doubles

theorem written_toJson (cs : Conditions) : cs.toJson.Written := by
  have hentry : ∀ e ∈ cs.entries, (Json.arr [.str e.1, e.2.toJson]).Written := fun e _ =>
    .arr (by simpa using ⟨.str e.1, e.2.written_toJson⟩)
  have hentries : (Json.arr (cs.entries.map fun e => .arr [.str e.1, e.2.toJson])).Written :=
    .arr (List.forall_mem_map.mpr hentry)
  exact .obj (by simpa using hentries)

theorem sameAs_self (h : ∀ x ∈ cs.doubles, x.isFinite = true) : cs.sameAs cs = true := by
  have hentries : ∀ e ∈ cs.entries, (decide (e.1 = e.1) && e.2.sameAs e.2) = true := by
    intro e he
    have hsame := Condition.sameAs_self fun x hx => h x (List.mem_flatMap.mpr ⟨e, he, hx⟩)
    rw [decide_eq_true rfl, hsame, Bool.and_self]
  rw [sameAs, FieldMap.sameInOrder, decide_eq_true rfl, Bool.true_and]
  exact all_zip_self hentries

/-- **Sets of conditions are told from their trees**, entry by entry and in order. -/
theorem eq_of_toJson_eq (hcs : ∀ e ∈ cs.entries, e.2.Built) (hds : ∀ e ∈ ds.entries, e.2.Built)
    (hxs : ∀ x ∈ cs.doubles, x.isFinite = true) (hys : ∀ y ∈ ds.doubles, y.isFinite = true)
    (h : cs.toJson = ds.toJson) : cs = ds := by
  have hentries : (cs.entries.map fun e => Json.arr [.str e.1, e.2.toJson]) =
      ds.entries.map fun e => Json.arr [.str e.1, e.2.toJson] := by
    simpa [toJson] using h
  refine FieldMap.eq_of_entries_eq (Json.eq_of_map_eq ?_ hentries)
  intro e he e' he' heq
  simp only [Json.arr.injEq, List.cons.injEq, Json.str.injEq, and_true] at heq
  have hcondition := Condition.eq_of_toJson_eq (hcs e he) (hds e' he')
    (fun x hx => hxs x (List.mem_flatMap.mpr ⟨e, he, hx⟩))
    (fun y hy => hys y (List.mem_flatMap.mpr ⟨e', he', hy⟩)) heq.2
  exact Prod.ext heq.1 hcondition

/-- **A condition set is told from its text.** If the operators of two sets come from constructors
and all their doubles are finite, the sets have the same text only if they are the same: the same
fields in the same order, with equal conditions. In particular two regular expressions have the same
text only if they have the same source and both or neither ignore case. -/
theorem told_from_text :
    (∀ cs ds : Conditions, (∀ e ∈ cs.entries, e.2.Built) → (∀ e ∈ ds.entries, e.2.Built) →
      (∀ x ∈ cs.doubles, x.isFinite = true) → (∀ y ∈ ds.doubles, y.isFinite = true) →
      cs.toJson.text = ds.toJson.text → cs = ds ∧ cs.sameAs ds = true) ∧
    (∀ p q : RegexPattern, p.diagnostic = q.diagnostic →
      p.source = q.source ∧ p.ignoreCase = q.ignoreCase) := by
  refine ⟨fun cs ds hcs hds hxs hys htext => ?_, fun p q => RegexPattern.diagnostic_eq_iff.mp⟩
  have htree : cs.toJson = ds.toJson := cs.written_toJson.eq_of_text_eq ds.written_toJson htext
  obtain rfl : cs = ds := eq_of_toJson_eq hcs hds hxs hys htree
  exact ⟨rfl, sameAs_self hxs⟩

/-- A field that was set twice, a pattern that ignores case, an expression that ends as flags do,
and negative zero. -/
theorem told_from_text_slashes : ∃ o p q, Operator.ofLikeIgnoreCase "a_" = .ok o ∧
    RegexPattern.compile "a/i" false = .ok p ∧ RegexPattern.compile "a/i" false = .ok q ∧
    (p.diagnostic = q.diagnostic ∧ p.source = q.source ∧ p.ignoreCase = q.ignoreCase) ∧
    let zero : Condition := .oneOf [.float ⟨0x8000000000000000⟩]
    let cs : Conditions := (((FieldMap.empty.insert "x" .isNull).insert "y"
      (.operator (.regex p))).insert "z" (.operator o)).insert "x" zero
    let ds : Conditions :=
      FieldMap.ofList [("x", zero), ("y", .operator (.regex q)), ("z", .operator o)]
    cs.toJson.text = ds.toJson.text ∧ cs = ds ∧ cs.sameAs ds = true := by
  obtain ⟨l, hl, -⟩ := LikePattern.exists_compile "a_" true
  have ho : Operator.ofLikeIgnoreCase "a_" = .ok (.likeIgnoreCase l) := by
    rw [Operator.ofLikeIgnoreCase, hl]
    rfl
  obtain ⟨p, hp⟩ : ∃ p, RegexPattern.compile "a/i" false = .ok p := ⟨_, rfl⟩
  refine ⟨_, p, p, ho, hp, hp, ⟨rfl, told_from_text.2 p p rfl⟩, ?_⟩
  intro zero cs ds
  have hbuilt : ∀ e ∈ [("x", zero), ("y", .operator (.regex p)),
      ("z", .operator (.likeIgnoreCase l))], e.2.Built := by
    rintro e (_ | ⟨_, _ | ⟨_, _ | ⟨_, he⟩⟩⟩)
    · trivial
    · exact .regex p
    · exact .constructed (.likeIgnoreCase ho)
    · cases he
  have hfinite : ∀ x ∈ [(⟨0x8000000000000000⟩ : Double)], x.isFinite = true := by decide
  have htext : cs.toJson.text = ds.toJson.text := rfl
  exact ⟨htext, told_from_text.1 cs ds hbuilt hbuilt hfinite hfinite htext⟩

end Conditions

end RecordFilter
