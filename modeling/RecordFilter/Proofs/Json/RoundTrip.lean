import RecordFilter.Json.Queries
import RecordFilter.Proofs.Filter.Composition
import RecordFilter.Proofs.Json.Trees
import RecordFilter.Proofs.Value.Order

/-!
# Proofs/Json/RoundTrip — what was written is read back

A tree form is *faithful* to a value if it is legible and is read as the value (`Faithful`). Forms
are put together from smaller ones, variants and structures, and so are the proofs that they are
faithful. A faithful value is read back from its text (`Faithful.read?_write`). The one thing that
is asked of a value is that its doubles are read back, each from its own text.
-/

namespace RecordFilter

namespace JsonForm

variable {α : Type} [JsonForm α]

/-- The text of a value's tree. -/
def write (a : α) : String := (toJson a).text

/-- The value of a text's tree. -/
def read? (text : String) : Option α := (Json.parse? text).bind ofJson?

/-- The tree of a value can be written and stands for the value. -/
structure Faithful (a : α) : Prop where
  legible : (toJson a).Legible
  ofJson?_toJson : ofJson? (toJson a) = some a

/-- **A faithful value is read back from its text.** -/
theorem Faithful.read?_write {a : α} (h : Faithful a) : read? (write a) = some a := by
  rw [read?, write, Json.parse?_text h.legible]
  exact h.ofJson?_toJson

end JsonForm

open JsonForm

namespace Json

/-- A variant is legible if its content is, since a name is text like any other. -/
theorem Legible.variant {content : Json} (h : content.Legible) (name : String) :
    (Json.variant name content).Legible :=
  .obj fun m hm => by
    rw [List.mem_singleton] at hm
    rwa [hm]

/-- A key that comes once is found with what stands behind it. -/
theorem field?_of_mem {members : List (String × Json)} (hnodup : (members.map Prod.fst).Nodup)
    {m : String × Json} (h : m ∈ members) : field? members m.1 = some (some m.2) := by
  have hfilter : members.filter (·.1 = m.1) = [m] := by
    induction members with
    | nil => cases h
    | cons n members ih =>
      rw [List.map_cons, List.nodup_cons] at hnodup
      rcases List.mem_cons.mp h with rfl | h
      · -- the name does not come again
        have hrest : members.filter (·.1 = m.1) = [] := by
          simp only [List.filter_eq_nil_iff, decide_eq_true_eq]
          exact fun n hn heq => hnodup.1 (heq ▸ List.mem_map_of_mem hn)
        rw [List.filter_cons_of_pos (by simp), hrest]
      · have hne : n.1 ≠ m.1 := fun heq => hnodup.1 (heq ▸ List.mem_map_of_mem h)
        rw [List.filter_cons_of_neg (by simpa using hne), ih hnodup.2 h]
  rw [field?, hfilter]

/-- **A structure is read from its fields**, whatever they hold. -/
theorem exactFields?_obj {names : List String} {members : List (String × Json)}
    (hnames : members.map Prod.fst = names) (hnodup : names.Nodup) :
    exactFields? names (.obj members) = some (members.map fun m => some m.2) := by
  have hmapM : ∀ l : List (String × Json), l ⊆ members →
      (l.map Prod.fst).mapM (field? members) = some (l.map fun m => some m.2) := by
    intro l hl
    induction l with
    | nil => rfl
    | cons m l ih =>
      rw [List.cons_subset] at hl
      simp [field?_of_mem (hnames ▸ hnodup) hl.1, ih hl.2]
  rw [← hnames]
  exact hmapM members (List.Subset.refl members)

end Json

/-! ## Values and ranges -/

namespace Value

/-- The doubles in a value, which are all that a round trip may depend on. -/
def doubles : Value → List Double
  | float x => [x]
  | _ => []

/-- The tree of a value stands for the value. Doubles have to be finite, since the format has no
others. -/
theorem ofJson?_toJson {v : Value} (h : ∀ x ∈ v.doubles, x.isFinite = true) :
    ofJson? v.toJson = some v := by
  cases v with
  | int n =>
    have hread : (Json.int n.toInt).int64? = some n := by
      rw [Json.int64?, if_pos ⟨n.minValue_le_toInt, n.toInt_le⟩, Int64.ofInt_toInt]
    exact congrArg (Option.map int) hread
  | float x =>
    -- a double that is not finite would be written as null
    have hform : toJson (float x) = .variant "Float" (.float x) :=
      congrArg (Json.variant "Float") (if_pos (h x (List.mem_singleton_self x)))
    rw [hform]
    rfl
  | _ => rfl

/-- **A value is faithful if its doubles are read back.** Integers have 64 bits, as the reader asks
of them. -/
theorem faithful {v : Value} (h : ∀ x ∈ v.doubles, x.isReadBack = true) : Faithful v := by
  refine ⟨?_, ofJson?_toJson fun x hx => Double.isFinite_of_isReadBack (h x hx)⟩
  cases v with
  | null => exact .str "Null"
  | bool b => exact .variant (.bool b) "Bool"
  | int n =>
    have hlow : -(Nat.pow 2 63 : Int) ≤ n.toInt := n.le_toInt
    have hhigh : n.toInt < Nat.pow 2 64 := Int.lt_trans n.toInt_lt (by decide)
    exact .variant (.int hlow hhigh) "Int"
  | float x =>
    have hread : x.isReadBack = true := h x (List.mem_singleton_self x)
    have hform : Json.ofDouble x = .float x := if_pos (Double.isFinite_of_isReadBack hread)
    exact .variant (hform ▸ .float hread) "Float"
  | str s => exact .variant (.str s) "Str"

end Value

namespace Bound

def doubles : Bound → List Double
  | included v => v.doubles
  | excluded v => v.doubles
  | unbounded => []

/-- The tree of a bound stands for the bound, since that of its value does. -/
theorem ofJson?_toJson {b : Bound} (h : ∀ x ∈ b.doubles, x.isFinite = true) :
    ofJson? b.toJson = some b := by
  cases b with
  | included v => exact congrArg (Option.map included) (Value.ofJson?_toJson h)
  | excluded v => exact congrArg (Option.map excluded) (Value.ofJson?_toJson h)
  | unbounded => rfl

theorem faithful {b : Bound} (h : ∀ x ∈ b.doubles, x.isReadBack = true) : Faithful b := by
  refine ⟨?_, ofJson?_toJson fun x hx => Double.isFinite_of_isReadBack (h x hx)⟩
  cases b with
  | included v => exact .variant (Value.faithful h).legible "Included"
  | excluded v => exact .variant (Value.faithful h).legible "Excluded"
  | unbounded => exact .str "Unbounded"

end Bound

namespace Range

/-- The doubles at both ends of a range. -/
def doubles (r : Range) : List Double := r.start.doubles ++ r.stop.doubles

/-- The tree of a range stands for the range, since those of its ends do. -/
theorem ofJson?_toJson {r : Range} (h : ∀ x ∈ r.doubles, x.isFinite = true) :
    ofJson? r.toJson = some r := by
  rw [doubles, List.forall_mem_append] at h
  change ofJson? (.obj _) = _
  simp [ofJson?, Json.exactFields?_obj, Bound.ofJson?_toJson h.1, Bound.ofJson?_toJson h.2]

/-- Ranges are structures of two bounds, and faithful if these are. -/
theorem faithful {r : Range} (h : ∀ x ∈ r.doubles, x.isReadBack = true) : Faithful r := by
  refine ⟨?_, ofJson?_toJson fun x hx => Double.isFinite_of_isReadBack (h x hx)⟩
  rw [doubles, List.forall_mem_append] at h
  have hstart : Faithful r.start := Bound.faithful h.1
  have hstop : Faithful r.stop := Bound.faithful h.2
  exact .obj (by simpa using ⟨hstart.legible, hstop.legible⟩)

end Range

/-! ## Conversions and fragments -/

namespace Mode

theorem faithful (m : Mode) : Faithful m := by
  cases m <;> exact ⟨.str _, rfl⟩

end Mode

namespace Conversion

/-- A conversion has no doubles, so it is always faithful. -/
theorem faithful (c : Conversion) : Faithful c := by
  have hmode : Mode.ofJson? c.mode.toJson = some c.mode := (Mode.faithful _).ofJson?_toJson
  refine ⟨.obj ?_, ?_⟩
  · simpa using ⟨(Mode.faithful _).legible, .bool _, .str _⟩
  · change ofJson? (.obj _) = _
    simp [ofJson?, Json.exactFields?_obj, hmode, Json.bool?, Json.str?]

end Conversion

namespace Column

theorem faithful (c : Column) : Faithful c := by
  obtain ⟨table, name⟩ := c
  refine ⟨.obj ?_, ?_⟩
  · rcases table with _ | table
    · simpa using ⟨.null, .str name⟩
    · simpa using ⟨.str table, .str name⟩
  · rcases table with _ | table <;> rfl

end Column

namespace Comparison

theorem faithful (c : Comparison) : Faithful c := by
  rcases c with _ | _ | _ | _ | _ <;> exact ⟨.str _, rfl⟩

end Comparison

namespace Fragment

/-- The doubles in the operands of a fragment. -/
def doubles : Fragment → List Double
  | compare _ _ v => v.doubles
  | oneOf _ vs _ => vs.flatMap Value.doubles
  | within _ r => r.doubles
  | _ => []

/-- A variant with fields is read field by field. -/
theorem ofJson?_variant {name : String} {fields : List (String × Json)} (column : Column)
    (hnever : name ≠ "Never") (hnames : fieldNames name = "column" :: fields.map Prod.fst)
    (hnodup : (fieldNames name).Nodup) :
    ofJson? (.variant name (.obj (("column", column.toJson) :: fields))) =
      ofFields? name column (fields.map Prod.snd) := by
  have hcolumn : Column.ofJson? column.toJson = some column :=
    (Column.faithful column).ofJson?_toJson
  have hfields : Json.exactFields? (fieldNames name)
      (.obj (("column", column.toJson) :: fields)) =
        some (some column.toJson :: fields.map fun m => some m.2) :=
    Json.exactFields?_obj hnames.symm hnodup
  have hall : (fields.map fun m => some m.2).mapM id = some (fields.map Prod.snd) := by
    have hmap : (fields.map fun m => some m.2) = (fields.map Prod.snd).map some := by simp
    rw [hmap]
    exact Json.mapM_map_eq_some fun _ _ => rfl
  rw [ofJson?]
  simp [Json.variant, Json.variant?, hfields, hall, hcolumn]

/-- A variant is faithful if its fields are legible and are read as its content. -/
theorem faithful_variant {f : Fragment} {name : String} {column : Column}
    {fields : List (String × Json)}
    (hform : f.toJson = .variant name (.obj (("column", column.toJson) :: fields)))
    (hnever : name ≠ "Never") (hnames : fieldNames name = "column" :: fields.map Prod.fst)
    (hnodup : (fieldNames name).Nodup) (hlegible : ∀ m ∈ fields, m.2.Legible)
    (hread : ofFields? name column (fields.map Prod.snd) = some f) : Faithful f := by
  refine ⟨?_, ?_⟩
  · change f.toJson.Legible
    rw [hform]
    have hcolumn : column.toJson.Legible := (Column.faithful column).legible
    exact .variant (.obj (List.forall_mem_cons.mpr ⟨hcolumn, hlegible⟩)) name
  · change ofJson? f.toJson = some f
    rw [hform, ofJson?_variant column hnever hnames hnodup, hread]

/-- **A fragment is faithful if its doubles are read back**, whatever its shape. -/
theorem faithful {f : Fragment} (h : ∀ x ∈ f.doubles, x.isReadBack = true) : Faithful f := by
  cases f with
  | never => exact ⟨.str "Never", rfl⟩
  | isNull column => exact faithful_variant rfl (by decide) rfl (by decide) nofun rfl
  | compare column op value =>
    have hop : Faithful op := Comparison.faithful op
    have hvalue : Faithful value := Value.faithful h
    refine faithful_variant rfl (by decide) rfl (by decide) ?_ ?_
    · simpa using ⟨hop.legible, hvalue.legible⟩
    · have hread : Comparison.ofJson? op.toJson = some op := hop.ofJson?_toJson
      have hread' : Value.ofJson? value.toJson = some value := hvalue.ofJson?_toJson
      simp [ofFields?, hread, hread']
  | lowerEquals column value =>
    refine faithful_variant rfl (by decide) rfl (by decide) ?_ rfl
    simpa using Json.Legible.str value
  | wildcard column pattern caseSensitive negated =>
    refine faithful_variant rfl (by decide) rfl (by decide) ?_ rfl
    simpa using ⟨.str pattern, .bool caseSensitive, .bool negated⟩
  | regex column source caseSensitive =>
    refine faithful_variant rfl (by decide) rfl (by decide) ?_ rfl
    simpa using ⟨.str source, .bool caseSensitive⟩
  | oneOf column values orNull =>
    have hvalues : ∀ v ∈ values, Faithful v := fun v hv =>
      Value.faithful fun x hx => h x (List.mem_flatMap.mpr ⟨v, hv, hx⟩)
    refine faithful_variant rfl (by decide) rfl (by decide) ?_ ?_
    · have hitems : (Json.arr (values.map Value.toJson)).Legible :=
        .arr (List.forall_mem_map.mpr fun v hv => (hvalues v hv).legible)
      simpa using ⟨hitems, .bool orNull⟩
    · have hread : (values.map Value.toJson).mapM Value.ofJson? = some values :=
        Json.mapM_map_eq_some fun v hv => (hvalues v hv).ofJson?_toJson
      simp [ofFields?, Json.arr?, Json.bool?, hread]
  | within column range =>
    have hrange : Faithful range := Range.faithful h
    refine faithful_variant rfl (by decide) rfl (by decide) ?_ ?_
    · have hlegible : range.toJson.Legible := hrange.legible
      simpa using hlegible
    · have hread : Range.ofJson? range.toJson = some range := hrange.ofJson?_toJson
      simp [ofFields?, hread]

end Fragment

/-! ## Rows -/

namespace Row

/-- The doubles in the fields of a row. -/
def doubles (r : Row) : List Double := r.entries.flatMap fun e => e.2.doubles

/-- **A row is faithful if its doubles are read back.** Its names are distinct, so each is found in
its object. -/
theorem faithful {r : Row} (h : ∀ x ∈ r.doubles, x.isReadBack = true) : Faithful r := by
  have hvalues : ∀ e ∈ r.entries, Faithful e.2 := fun e he =>
    Value.faithful fun x hx => h x (List.mem_flatMap.mpr ⟨e, he, hx⟩)
  refine ⟨.obj ?_, ?_⟩
  · have hentries : (Json.obj (r.entries.map fun e => (e.1, e.2.toJson))).Legible :=
      .obj (List.forall_mem_map.mpr fun e he => (hvalues e he).legible)
    simpa using hentries
  · have hread : (r.entries.map fun e => (e.1, e.2.toJson)).mapM
        (fun m => (Value.ofJson? m.2).bind fun v => some (m.1, v)) = some r.entries := by
      refine Json.mapM_map_eq_some fun e he => ?_
      have hv : Value.ofJson? e.2.toJson = some e.2 := (hvalues e he).ofJson?_toJson
      rw [hv]
      rfl
    -- the names of a row differ, so collecting its fields changes none of them
    have hrow : FieldMap.ofList r.entries = r :=
      FieldMap.eq_of_entries_eq (FieldMap.entries_ofList r.nodup)
    have hfields (values : Json) :
        Json.exactFields? ["values"] (.obj [("values", values)]) = some [some values] :=
      Json.exactFields?_obj rfl (by decide)
    change ofJson? (.obj [("values", .obj _)]) = some r
    simp only [ofJson?, hfields, Json.obj?, Option.bind_eq_bind, Option.bind_some, hread, hrow,
      Option.pure_def]

end Row

/-! ## Equality -/

/-- A list is compared with itself item by item. -/
theorem all_zip_self {α : Type} {same : α × α → Bool} {l : List α}
    (h : ∀ a ∈ l, same (a, a) = true) : (l.zip l).all same = true := by
  simpa [List.zip_eq_zipWith, List.zipWith_self] using h

/-- A value is the same as itself unless it is NaN, which finite doubles exclude. -/
theorem Value.sameAs_self_of_isFinite {v : Value} (h : ∀ x ∈ v.doubles, x.isFinite = true) :
    v.sameAs v = true := by
  have hequals : v.equals v = true := by
    rw [equals_self_iff]
    rintro x rfl
    exact Double.isNaN_of_isFinite (h x (List.mem_singleton_self x))
  cases v <;> exact hequals

theorem Bound.sameAs_self_of_isFinite {b : Bound} (h : ∀ x ∈ b.doubles, x.isFinite = true) :
    b.sameAs b = true := by
  cases b with
  | included v => exact Value.sameAs_self_of_isFinite h
  | excluded v => exact Value.sameAs_self_of_isFinite h
  | unbounded => rfl

theorem Range.sameAs_self_of_isFinite {r : Range} (h : ∀ x ∈ r.doubles, x.isFinite = true) :
    r.sameAs r = true := by
  rw [doubles, List.forall_mem_append] at h
  rw [sameAs, Bound.sameAs_self_of_isFinite h.1, Bound.sameAs_self_of_isFinite h.2]
  rfl

theorem Value.sameAs_self {v : Value} (h : ∀ x ∈ v.doubles, x.isReadBack = true) :
    v.sameAs v = true :=
  sameAs_self_of_isFinite fun x hx => Double.isFinite_of_isReadBack (h x hx)

theorem Range.sameAs_self {r : Range} (h : ∀ x ∈ r.doubles, x.isReadBack = true) :
    r.sameAs r = true :=
  sameAs_self_of_isFinite fun x hx => Double.isFinite_of_isReadBack (h x hx)

/-- A fragment whose doubles are read back is the same as itself, since NaN is not among them. -/
theorem Fragment.sameAs_self {f : Fragment} (h : ∀ x ∈ f.doubles, x.isReadBack = true) :
    f.sameAs f = true := by
  cases f with
  | compare column op value => simp [sameAs, Value.sameAs_self h]
  | oneOf column values orNull =>
    have hvalues : ∀ v ∈ values, v.sameAs v = true := fun v hv =>
      Value.sameAs_self fun x hx => h x (List.mem_flatMap.mpr ⟨v, hv, hx⟩)
    have hzip : ((values.zip values).all fun p => p.1.sameAs p.2) = true := all_zip_self hvalues
    simp [sameAs, hzip]
  | within column range => simp [sameAs, Range.sameAs_self h]
  | _ => simp [sameAs]

/-- Where names are distinct, looking one up finds its entry. -/
theorem FieldMap.find_of_mem {α : Type} {l : List (String × α)} (hnodup : (l.map Prod.fst).Nodup)
    {e : String × α} (h : e ∈ l) : find e.1 l = some e.2 := by
  induction l with
  | nil => cases h
  | cons d l ih =>
    rw [List.map_cons, List.nodup_cons] at hnodup
    rcases List.mem_cons.mp h with rfl | h
    · exact if_pos rfl
    · have hne : d.1 ≠ e.1 := fun heq => hnodup.1 (heq ▸ List.mem_map_of_mem h)
      rw [find, if_neg hne, ih hnodup.2 h]

/-- The order of the fields makes no difference. -/
theorem Row.sameAs_of_perm {r s : Row} (h : ∀ x ∈ r.doubles, x.isReadBack = true)
    (hperm : s.entries.Perm r.entries) : r.sameAs s = true := by
  have hsize : FieldMap.size r = FieldMap.size s := hperm.length_eq.symm
  rw [sameAs, FieldMap.sameContents, hsize, decide_eq_true rfl, Bool.true_and, List.all_eq_true]
  intro e he
  have hfind : FieldMap.get? s e.1 = some e.2 :=
    FieldMap.find_of_mem s.nodup (hperm.mem_iff.mpr he)
  have hsame : e.2.sameAs e.2 = true :=
    Value.sameAs_self fun x hx => h x (List.mem_flatMap.mpr ⟨e, he, hx⟩)
  simp [hfind, hsame]

/-- The order of fields makes no difference to the doubles in a row. -/
theorem Row.doubles_of_perm {r s : Row} (hperm : s.entries.Perm r.entries) {x : Double} :
    x ∈ s.doubles ↔ x ∈ r.doubles :=
  (hperm.flatMap_right _).mem_iff

namespace JsonForm

/-- **What was written is read back.** A value, a range, a fragment, a conversion or a row is what
its text is read as, and equals it, if its doubles are read back: none of them is NaN or infinite,
and each is what its own text is read as. The text of a row may list the fields in any order. -/
theorem read?_write_same :
    (∀ v : Value, (∀ x ∈ v.doubles, x.isReadBack = true) →
      read? (write v) = some v ∧ v.sameAs v = true) ∧
    (∀ r : Range, (∀ x ∈ r.doubles, x.isReadBack = true) →
      read? (write r) = some r ∧ r.sameAs r = true) ∧
    (∀ f : Fragment, (∀ x ∈ f.doubles, x.isReadBack = true) →
      read? (write f) = some f ∧ f.sameAs f = true) ∧
    (∀ c : Conversion, read? (write c) = some c) ∧
    (∀ r s : Row, (∀ x ∈ r.doubles, x.isReadBack = true) → s.entries.Perm r.entries →
      read? (write s) = some s ∧ r.sameAs s = true) := by
  refine ⟨fun v h => ⟨(Value.faithful h).read?_write, Value.sameAs_self h⟩,
    fun r h => ⟨(Range.faithful h).read?_write, Range.sameAs_self h⟩,
    fun f h => ⟨(Fragment.faithful h).read?_write, Fragment.sameAs_self h⟩,
    fun c => (Conversion.faithful c).read?_write, fun r s h hperm => ?_⟩
  have hs : ∀ x ∈ s.doubles, x.isReadBack = true := fun x hx =>
    h x ((Row.doubles_of_perm hperm).mp hx)
  exact ⟨(Row.faithful hs).read?_write, Row.sameAs_of_perm h hperm⟩

/-- A tenth, negative zero before an open end, the least integer and a null in a column without a
table, escapes, and the greatest double in a row that lists its fields the other way round. -/
theorem read?_write_same_nested :
    let value : Value := .float ⟨0x3fb999999999999a⟩
    let range : Range := ⟨.excluded (.float ⟨0x8000000000000000⟩), .unbounded⟩
    let fragment : Fragment :=
      .oneOf ⟨none, "a\"b"⟩ [.int Int64.minValue, .null, .float ⟨0x3ff8000000000000⟩] true
    let conversion : Conversion := ⟨.native, false, "a\\d\u0001\t/"⟩
    let row : Row := FieldMap.ofList [("Null", .null), ("x", .float ⟨0x7fefffffffffffff⟩)]
    let reversed : Row := FieldMap.ofList [("x", .float ⟨0x7fefffffffffffff⟩), ("Null", .null)]
    (read? (write value) = some value ∧ value.sameAs value = true) ∧
      (read? (write range) = some range ∧ range.sameAs range = true) ∧
      (read? (write fragment) = some fragment ∧ fragment.sameAs fragment = true) ∧
      read? (write conversion) = some conversion ∧
      read? (write reversed) = some reversed ∧ Row.sameAs row reversed = true := by
  intro value range fragment conversion row reversed
  obtain ⟨hvalue, hrange, hfragment, hconversion, hrow⟩ := read?_write_same
  refine ⟨hvalue value ?_, hrange range ?_, hfragment fragment ?_, hconversion conversion,
    hrow row reversed ?_ (List.Perm.swap _ _ _)⟩
  · decide +kernel
  · decide +kernel
  · decide +kernel
  · decide +kernel

end JsonForm

end RecordFilter
