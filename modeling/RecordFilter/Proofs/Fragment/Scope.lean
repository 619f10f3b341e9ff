import Mathlib.Data.List.Forall2
import RecordFilter.Filter
import RecordFilter.Proofs.Downgrade.Conversion

/-!
# Proofs/Fragment/Scope — a scope is handed every fragment or none

A condition is **refused** if it is a regular expression that stays as it is and the backend has no
regular expressions; all others compile, each to one fragment on its own column
(`compile_or_refuse`). Compiling a set stops at the first condition that is refused, with the
reports made so far (`run_mapM_of_refused`), and otherwise goes through it in order
(`run_mapM_of_compiles`). So a scope sees the fragments of all conditions in one call, or sees
nothing.
-/

namespace RecordFilter

/-! ## Actions in sequence -/

namespace Action

variable {α β : Type} {x : Action α} {k : α → Action β} {a : α} {e : Error} {log log' : List Event}

theorem run_bind_ok (h : x.run.run log = (.ok a, log')) :
    (x >>= k).run.run log = (k a).run.run log' := by
  rw [ExceptT.run_bind, StateT.run_bind, h]
  rfl

/-- What fails ends all that follows, and keeps its reports. -/
theorem run_bind_error (h : x.run.run log = (.error e, log')) :
    (x >>= k).run.run log = (.error e, log') := by
  rw [ExceptT.run_bind, StateT.run_bind, h]
  rfl

end Action

/-! ## One condition -/

/-- The condition is a regular expression that no conversion and no backend takes. -/
def Settings.Refuses (s : Settings) (c : Condition) : Prop :=
  s.useRegex = false ∧ ∃ p : RegexPattern, c = .operator (.regex p) ∧
    (Downgrade.convert p.source p.ignoreCase).mode = .native

namespace Condition

/-- Whether the condition is a comparison by order with null. -/
def ordersNull : Condition → Bool
  | operator (.ordered _ operand) => operand.isNull
  | _ => false

/-- What compiling the condition for a column reports: what becomes of a regular expression. -/
def reports (column : Column) : Condition → List Event
  | operator (.regex p) =>
    let conversion := Downgrade.convert p.source p.ignoreCase
    [.regexDowngrade column conversion.mode conversion.caseSensitive]
  | _ => []

/-- The condition compiles to the fragment, which names the column; a comparison by order with null
compiles to no selection at all, which names none. -/
structure CompilesTo (c : Condition) (s : Settings) (column : Column) (f : Fragment) : Prop where
  run_eq : ∀ log, (c.compile s column).run.run log = (.ok f, log ++ c.reports column)
  column?_eq : f.column? = if c.ordersNull then none else some column
  eq_never_iff : f = .never ↔ c.ordersNull = true

variable {c : Condition} {s : Settings} {column : Column} {f : Fragment}

/-- A fragment that names the column, of a condition that does not order with null. -/
theorem CompilesTo.of_column
    (hrun : ∀ log, (c.compile s column).run.run log = (.ok f, log ++ c.reports column))
    (hcolumn : f.column? = some column) (horder : c.ordersNull = false) :
    c.CompilesTo s column f where
  run_eq := hrun
  column?_eq := by rw [hcolumn, horder]; rfl
  eq_never_iff := by
    rw [horder]
    refine ⟨fun h => ?_, nofun⟩
    rw [h] at hcolumn
    cases hcolumn

theorem CompilesTo.of_pure (hcompile : c.compile s column = pure f)
    (hreports : c.reports column = []) (hcolumn : f.column? = some column)
    (horder : c.ordersNull = false) : c.CompilesTo s column f := by
  refine .of_column (fun log => ?_) hcolumn horder
  rw [hcompile, hreports, List.append_nil]
  rfl

theorem compilesTo_ordered (i : Inequality) (operand : Value) :
    CompilesTo (.operator (.ordered i operand)) s column (i.fragment column operand) := by
  cases hnull : operand.isNull with
  | true =>
    have hnever : i.fragment column operand = .never := if_pos hnull
    refine ⟨fun log => ?_, ?_, ?_⟩
    · exact congrArg (_, ·) (List.append_nil log).symm
    · rw [hnever, ordersNull, hnull]
      rfl
    · exact iff_of_true hnever hnull
  | false =>
    have hcompare : i.fragment column operand = .compare column (.inequality i) operand :=
      if_neg (by rw [hnull]; decide)
    exact .of_pure rfl rfl (by rw [hcompare]; rfl) hnull

@[simp] theorem column?_equalsIgnoreCase (escaped : String) :
    (s.equalsIgnoreCase column escaped).column? = some column := by
  unfold Settings.equalsIgnoreCase
  split
  · rfl
  · split <;> rfl

/-- A regular expression reports its conversion before that gives a fragment or fails. -/
theorem run_compile_regex (p : RegexPattern) (log : List Event) :
    (Condition.compile (.operator (.regex p)) s column).run.run log =
      ((Downgrade.convert p.source p.ignoreCase).fragment s column,
        log ++ reports column (.operator (.regex p))) := by
  have hrun : (Condition.compile (.operator (.regex p)) s column).run.run log =
      (ofExcept ((Downgrade.convert p.source p.ignoreCase).fragment s column) :
        Action Fragment).run.run (log ++ reports column (.operator (.regex p))) := rfl
  rw [hrun]
  cases (Downgrade.convert p.source p.ignoreCase).fragment s column <;> rfl

theorem exists_conversion_fragment (column : Column) (conversion : Conversion)
    (h : ¬ (s.useRegex = false ∧ conversion.mode = .native)) :
    ∃ f, conversion.fragment s column = .ok f ∧ f.column? = some column := by
  rw [Conversion.fragment]
  cases hmode : conversion.mode with
  | equals =>
    refine ⟨_, rfl, ?_⟩
    split
    · rfl
    · exact column?_equalsIgnoreCase _
  | like => exact ⟨_, rfl, rfl⟩
  | native =>
    have huse : s.useRegex = true := by
      rw [← Bool.not_eq_false]
      exact fun hno => h ⟨hno, hmode⟩
    exact ⟨_, if_pos huse, rfl⟩

theorem compile_regex_or_refuse (p : RegexPattern) (s : Settings) (column : Column) :
    (¬ s.Refuses (.operator (.regex p)) ∧ ∃ f, CompilesTo (.operator (.regex p)) s column f) ∨
    (s.Refuses (.operator (.regex p)) ∧ ∀ log,
      (Condition.compile (.operator (.regex p)) s column).run.run log =
        (.error (.unsupported column.text p.source),
          log ++ reports column (.operator (.regex p)))) := by
  by_cases h : s.useRegex = false ∧ (Downgrade.convert p.source p.ignoreCase).mode = .native
  · obtain ⟨hno, hnative⟩ := h
    refine .inr ⟨⟨hno, p, rfl, hnative⟩, fun log => ?_⟩
    rw [run_compile_regex, Conversion.fragment, hnative, Downgrade.source_eq_of_native hnative, hno]
    rfl
  · obtain ⟨f, hf, hcolumn⟩ := exists_conversion_fragment column _ h
    refine .inl ⟨?_, f, .of_column (fun log => ?_) hcolumn rfl⟩
    · rintro ⟨hno, q, hq, hnative⟩
      cases hq
      exact h ⟨hno, hnative⟩
    · rw [run_compile_regex, hf]

/-- **A condition compiles to one fragment on its column, unless it is refused**: then the error
tells the column and the expression. -/
theorem compile_or_refuse (c : Condition) (s : Settings) (column : Column) :
    (¬ s.Refuses c ∧ ∃ f, c.CompilesTo s column f) ∨
    (s.Refuses c ∧ ∃ p, c = .operator (.regex p) ∧ ∀ log, (c.compile s column).run.run log =
      (.error (.unsupported column.text p.source), log ++ c.reports column)) := by
  have hother : (∀ p, c ≠ .operator (.regex p)) → ¬ s.Refuses c := fun h ⟨_, p, hp, _⟩ => h p hp
  cases c with
  | isNull => exact .inl ⟨hother nofun, _, .of_pure rfl rfl rfl rfl⟩
  | equals expected =>
    refine .inl ⟨hother nofun, _, .of_pure rfl rfl ?_ rfl⟩
    split <;> rfl
  | oneOf values => exact .inl ⟨hother nofun, _, .of_pure rfl rfl rfl rfl⟩
  | within range => exact .inl ⟨hother nofun, _, .of_pure rfl rfl rfl rfl⟩
  | operator o =>
    cases o with
    | ordered i operand => exact .inl ⟨hother nofun, _, compilesTo_ordered i operand⟩
    | equalsIgnoreCase operand =>
      refine .inl ⟨hother nofun, ?_⟩
      cases operand with
      | str text => exact ⟨_, .of_pure rfl rfl (column?_equalsIgnoreCase _) rfl⟩
      | _ => exact ⟨_, .of_pure rfl rfl rfl rfl⟩
    | like p => exact .inl ⟨hother nofun, _, .of_pure rfl rfl rfl rfl⟩
    | notLike p => exact .inl ⟨hother nofun, _, .of_pure rfl rfl rfl rfl⟩
    | likeIgnoreCase p => exact .inl ⟨hother nofun, _, .of_pure rfl rfl rfl rfl⟩
    | regex p =>
      refine (compile_regex_or_refuse p s column).imp_right fun ⟨hrefuse, herror⟩ => ?_
      exact ⟨hrefuse, p, rfl, herror⟩

end Condition

/-! ## All conditions -/

namespace Conditions

/-- What compiling conditions reports, each for the column of its field. -/
def reports (entries : List (String × Condition)) : List Event :=
  entries.flatMap fun e => e.2.reports { name := e.1 }

/-- Compiles a condition for the column of its field. -/
def compileEntry (s : Settings) (e : String × Condition) : Action Fragment :=
  e.2.compile s { name := e.1 }

theorem compile_eq_mapM (cs : Conditions) (s : Settings) :
    cs.compile s = cs.entries.mapM (compileEntry s) := rfl

variable {s : Settings} {entries : List (String × Condition)}

/-- **Conditions of which none is refused compile to one fragment each, in order.** -/
theorem run_mapM_of_compiles (h : ∀ e ∈ entries, ¬ s.Refuses e.2) :
    ∃ fragments,
      List.Forall₂ (fun e f => e.2.CompilesTo s { name := e.1 } f) entries fragments ∧
      ∀ log, (entries.mapM (compileEntry s)).run.run log =
        (.ok fragments, log ++ reports entries) := by
  induction entries with
  | nil => exact ⟨[], .nil, fun log => congrArg (_, ·) (List.append_nil log).symm⟩
  | cons e entries ih =>
    rw [List.forall_mem_cons] at h
    obtain ⟨fragments, hcompile, hrun⟩ := ih h.2
    obtain ⟨-, f, hf⟩ | ⟨hrefuses, -⟩ := e.2.compile_or_refuse s { name := e.1 }
    · refine ⟨f :: fragments, .cons hf hcompile, fun log => ?_⟩
      have hfirst : (compileEntry s e).run.run log =
          (.ok f, log ++ e.2.reports { name := e.1 }) := hf.run_eq log
      rw [List.mapM_cons, Action.run_bind_ok hfirst, Action.run_bind_ok (hrun _), reports,
        reports, List.flatMap_cons, ← List.append_assoc]
      rfl
    · exact absurd hrefuses h.1

/-- **Compiling stops at the first condition that is refused**, and the error tells its field and
its expression. -/
theorem run_mapM_of_refused {pre post : List (String × Condition)} {e : String × Condition}
    (hpre : ∀ e ∈ pre, ¬ s.Refuses e.2) (he : s.Refuses e.2) :
    ∃ p, e.2 = .operator (.regex p) ∧ ∀ log,
      ((pre ++ e :: post).mapM (compileEntry s)).run.run log =
        (.error (.unsupported e.1 p.source), log ++ reports (pre ++ [e])) := by
  obtain ⟨fragments, -, hrun⟩ := run_mapM_of_compiles hpre
  obtain ⟨hnot, -⟩ | ⟨-, p, hp, herror⟩ := e.2.compile_or_refuse s { name := e.1 }
  · exact absurd he hnot
  · refine ⟨p, hp, fun log => ?_⟩
    have hfirst : (compileEntry s e).run.run (log ++ reports pre) =
        (.error (.unsupported e.1 p.source), log ++ reports (pre ++ [e])) := by
      rw [compileEntry, herror, reports, reports, List.flatMap_append, List.flatMap_singleton,
        List.append_assoc]
      rfl
    have hrest : ((e :: post).mapM (compileEntry s)).run.run (log ++ reports pre) =
        (.error (.unsupported e.1 p.source), log ++ reports (pre ++ [e])) := by
      rw [List.mapM_cons, Action.run_bind_error hfirst]
    rw [List.mapM_append, Action.run_bind_ok (hrun log), Action.run_bind_error hrest]

/-- Without a condition that is refused, all fragments are handed over. -/
theorem filterScope_of_compiles {cs : Conditions} (h : ∀ e ∈ cs.entries, ¬ s.Refuses e.2)
    (negate : Bool) :
    ∃ fragments,
      List.Forall₂ (fun e f => e.2.CompilesTo s { name := e.1 } f) cs.entries fragments ∧
      ∀ {σ : Type} [Scope σ] (scope : σ) (log : List Event),
        (filterScope scope cs negate s).run.run log =
          (.ok (if negate then Scope.exclude scope fragments else Scope.filterBy scope fragments),
            log ++ reports cs.entries) := by
  obtain ⟨fragments, hcompile, hrun⟩ := run_mapM_of_compiles h
  refine ⟨fragments, hcompile, fun scope log => ?_⟩
  have hall : (cs.compile s).run.run log = (.ok fragments, log ++ reports cs.entries) := by
    rw [compile_eq_mapM, hrun]
  rw [filterScope, Action.run_bind_ok hall]
  rfl

/-- A condition that is refused keeps all fragments from being handed over. -/
theorem filterScope_of_refused {cs : Conditions} {pre post : List (String × Condition)}
    {e : String × Condition} (hcs : cs.entries = pre ++ e :: post)
    (hpre : ∀ e ∈ pre, ¬ s.Refuses e.2) (he : s.Refuses e.2) (negate : Bool) :
    ∃ p, e.2 = .operator (.regex p) ∧ ∀ {σ : Type} [Scope σ] (scope : σ) (log : List Event),
      (filterScope scope cs negate s).run.run log =
        (.error (.unsupported e.1 p.source), log ++ reports (pre ++ [e])) := by
  obtain ⟨p, hp, hrun⟩ := run_mapM_of_refused hpre he
  refine ⟨p, hp, fun scope log => ?_⟩
  have herror : (cs.compile s).run.run log =
      (.error (.unsupported e.1 p.source), log ++ reports (pre ++ [e])) := by
    rw [compile_eq_mapM, hcs, hrun]
  rw [filterScope, Action.run_bind_error herror]

/-- Either no condition is refused, or one is the first. -/
theorem exists_first_refused (s : Settings) (entries : List (String × Condition)) :
    (∀ e ∈ entries, ¬ s.Refuses e.2) ∨
      ∃ pre e post, entries = pre ++ e :: post ∧ (∀ e ∈ pre, ¬ s.Refuses e.2) ∧ s.Refuses e.2 := by
  classical
  cases hfind : entries.find? fun e => s.Refuses e.2 with
  | none => exact .inl (by simpa using hfind)
  | some e =>
    obtain ⟨he, pre, post, heq, hpre⟩ := List.find?_eq_some_iff_append.mp hfind
    exact .inr ⟨pre, e, post, heq, by simpa using hpre, by simpa using he⟩

/-- **A scope is handed the fragments of all conditions in one call, or nothing at all.** It is
handed nothing exactly if the backend has no regular expressions and some condition is one that
stays as it is; the error then tells the field and the source of the first of these. The reports are
those of the regular expressions up to there. -/
theorem filterScope_all_or_nothing (cs : Conditions) (negate : Bool) (s : Settings) :
    (∀ {σ : Type} [Scope σ] (scope : σ) (log : List Event),
      (∃ error, ((filterScope scope cs negate s).run.run log).1 = .error error) ↔
        s.useRegex = false ∧ ∃ name, ∃ p : RegexPattern,
          (name, .operator (.regex p)) ∈ cs.entries ∧
          (Downgrade.convert p.source p.ignoreCase).mode = .native) ∧
    ((∃ fragments, (∀ e ∈ cs.entries, ¬ s.Refuses e.2) ∧
      List.Forall₂ (fun e f => e.2.CompilesTo s { name := e.1 } f) cs.entries fragments ∧
      ∀ {σ : Type} [Scope σ] (scope : σ) (log : List Event),
        (filterScope scope cs negate s).run.run log =
          (.ok (if negate then Scope.exclude scope fragments else Scope.filterBy scope fragments),
            log ++ reports cs.entries)) ∨
    ∃ pre name p post, cs.entries = pre ++ (name, .operator (.regex p)) :: post ∧
      (∀ e ∈ pre, ¬ s.Refuses e.2) ∧ s.Refuses (.operator (.regex p)) ∧
      ∀ {σ : Type} [Scope σ] (scope : σ) (log : List Event),
        (filterScope scope cs negate s).run.run log =
          (.error (.unsupported name p.source),
            log ++ reports (pre ++ [(name, .operator (.regex p))]))) := by
  rcases exists_first_refused s cs.entries with hnone | ⟨pre, ⟨name, c⟩, post, hcs, hpre, hrefuses⟩
  · obtain ⟨fragments, hcompile, hrun⟩ := filterScope_of_compiles hnone negate
    refine ⟨fun scope log => ?_, .inl ⟨fragments, hnone, hcompile, hrun⟩⟩
    rw [hrun]
    constructor
    · rintro ⟨error, herror⟩
      cases herror
    · rintro ⟨hno, name, p, hmem, hnative⟩
      exact absurd ⟨hno, p, rfl, hnative⟩ (hnone _ hmem)
  · obtain ⟨p, rfl, hrun⟩ := filterScope_of_refused hcs hpre hrefuses negate
    refine ⟨fun scope log => ?_, .inr ⟨pre, name, p, post, hcs, hpre, hrefuses, hrun⟩⟩
    obtain ⟨hno, q, hq, hnative⟩ := hrefuses
    rw [hrun]
    refine iff_of_true ⟨_, rfl⟩ ⟨hno, name, q, ?_, hnative⟩
    rw [hcs, ← hq]
    exact List.mem_append_right _ List.mem_cons_self

end Conditions

end RecordFilter
