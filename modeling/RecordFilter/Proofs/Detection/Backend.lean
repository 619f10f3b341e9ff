import RecordFilter.Proofs.Detection.Answers
import RecordFilter.Proofs.Fragment.Equality

/-!
# Proofs/Detection/Backend — detected settings fit their backend

Four facts describe a backend, one for each probe. Where the probes are answered truthfully, a
detection finds just these facts (`detect_of_truthful`). Equality that ignores case then compiles to
a wildcard match, to plain equality or to a comparison in lower case, whichever ignores case on the
backend, and accepts the ASCII texts that it holds of in memory (`detect_accepts_iff`).
-/

namespace RecordFilter

/-! ## Backends and their answers -/

/-- What can be told about a backend. -/
structure Backend where
  /-- The plain wildcard match ignores the case of ASCII letters. -/
  likeIgnoresCase : Bool
  /-- Equality ignores the case of ASCII letters. -/
  equalityIgnoresCase : Bool
  /-- There is a wildcard match of its own that ignores case. -/
  insensitiveLike : Bool
  regexes : Bool
deriving DecidableEq

/-- The true answer to a probe. -/
def Backend.answer (b : Backend) : Probe → Bool
  | .sensitiveLike => b.likeIgnoresCase
  | .insensitiveLike => b.insensitiveLike
  | .equality => b.equalityIgnoresCase
  | .regex => b.regexes

/-- How a true answer may be given. What cannot be expressed at all is answered in the negative. -/
inductive Truthful : Except ProbeError Value → Bool → Prop
  | bool (b : Bool) : Truthful (.ok (.bool b)) b
  | one : Truthful (.ok (.int 1)) true
  | zero : Truthful (.ok (.int 0)) false
  | notSupported : Truthful (.error .notSupported) false

theorem Truthful.failure?_eq {answer : Except ProbeError Value} {b : Bool}
    (h : Truthful answer b) : failure? answer = none := by
  cases h <;> rfl

theorem Truthful.saysYes_eq {answer : Except ProbeError Value} {b : Bool}
    (h : Truthful answer b) : saysYes answer = b := by
  cases h <;> rfl

/-- What the fragment says of a text on the backend, where plain equality may ignore case. -/
def Backend.Accepts (b : Backend) : Fragment → String → Prop
  | .compare _ .equal (.str e), t => if b.equalityIgnoresCase then t.toLower = e.toLower else t = e
  | f, t => f.read (.str t) = .holds

variable {σ : Type} {b : Backend} {column : Column} {e t : String}

/-- **Truthful answers tell the facts.** -/
theorem detect_of_truthful {executor : Executor σ} {backend : String} {x : σ}
    (h : ∀ p, Truthful (executor.answerTo backend x p) (b.answer p)) (session : Session) :
    (session.detect executor backend x).result = .ok (.ofAnswers b.answer) := by
  have hfailure := (executor.firstFailure?_eq_none_iff backend x).mpr fun p => (h p).failure?_eq
  have hyes : (fun p => saysYes (executor.answerTo backend x p)) = b.answer :=
    funext fun p => (h p).saysYes_eq
  rw [detect_result, hfailure, hyes]
  rfl

/-! ## Equality that ignores case -/

/-- Equality that ignores case becomes whatever ignores case on the backend, or compares in lower
case. -/
theorem Backend.equalsIgnoreCase_eq (b : Backend) (column : Column) (e : String) :
    (Settings.ofAnswers b.answer).equalsIgnoreCase column (Like.escape e) =
      if b.likeIgnoresCase then .wildcard column (Like.escape e) false false
      else if b.equalityIgnoresCase then .compare column .equal (.str e)
      else .lowerEquals column (Text.lower e) := by
  rw [Settings.equalsIgnoreCase]
  cases hlike : b.likeIgnoresCase <;> cases hequality : b.equalityIgnoresCase <;>
    simp [Settings.ofAnswers, Backend.answer, hlike, hequality]

/-- **Whichever way a backend ignores case, ASCII texts are accepted that are the same in lower
case.** -/
theorem Backend.accepts_equalsIgnoreCase_iff (b : Backend) (ht : Text.IsAscii t)
    (he : Text.IsAscii e) :
    b.Accepts ((Settings.ofAnswers b.answer).equalsIgnoreCase column (Like.escape e)) t ↔
      Text.lower t = Text.lower e := by
  rw [b.equalsIgnoreCase_eq]
  split
  · have hmatch : (Fragment.wildcard column (Like.escape e) false false).Accepts {} t ↔
        Text.SameText true t e := Fragment.accepts_wildcard_escape_iff
    rw [Text.lower_eq_folded ht, Text.lower_eq_folded he]
    exact hmatch
  split
  · next hequality =>
    rw [Text.lower_eq_toLower ht, Text.lower_eq_toLower he, Backend.Accepts, if_pos hequality]
  · have hlower : (Fragment.lowerEquals column (Text.lower e)).Accepts {} t ↔
        Text.lower t = Text.lower e := by simp
    exact hlower

/-- **Detected settings are right for equality that ignores case.** If the probes are answered
truthfully, a detection finds the facts of the backend, and with these settings the backend accepts
exactly those ASCII texts that the operator holds of in memory. A wildcard match, which then ignores
case on purpose, is asked for only where it ignores case anyway. -/
theorem detect_accepts_iff {executor : Executor σ} {backend : String} {x : σ}
    (h : ∀ p, Truthful (executor.answerTo backend x p) (b.answer p)) (session : Session)
    (column : Column) :
    ∃ s, (session.detect executor backend x).result = .ok s ∧ s = .ofAnswers b.answer ∧
      ∀ e, Text.IsAscii e → ∃ f, (Operator.equalsIgnoreCase (.str e)).compile s column = pure f ∧
        f.column? = some column ∧
        (∀ t, Text.IsAscii t → (b.Accepts f t ↔
          (Operator.equalsIgnoreCase (.str e)).evaluate (.str t) = .holds)) ∧
        ∀ c pattern caseSensitive negated, f = .wildcard c pattern caseSensitive negated →
          b.likeIgnoresCase = true ∧ caseSensitive = false ∧ negated = false := by
  refine ⟨_, detect_of_truthful h session, rfl, fun e he => ⟨_, rfl, ?_, fun t ht => ?_, ?_⟩⟩
  · exact Condition.column?_equalsIgnoreCase _
  · simp [b.accepts_equalsIgnoreCase_iff ht he]
  · intro c pattern caseSensitive negated hf
    rw [b.equalsIgnoreCase_eq] at hf
    split at hf
    · next hlike =>
      cases hf
      exact ⟨hlike, rfl, rfl⟩
    · split at hf <;> cases hf

/-- A backend whose wildcard match and equality ignore case, and a text of wildcards and an escape
character. -/
theorem detect_accepts_iff_wildcards :
    let b : Backend := ⟨true, true, false, true⟩
    ∃ s f, (Session.detect {} (.answering fun p => .ok (.int (if b.answer p then 1 else 0)))
        "mysql" ()).result = .ok s ∧
      (Operator.equalsIgnoreCase (.str "50%_A\\")).compile s { name := "n" } = pure f ∧
      b.Accepts f "50%_a\\" ∧ ¬ b.Accepts f "500_a\\" := by
  intro b
  have htruthful : ∀ p, Truthful ((Executor.answering fun p =>
      .ok (.int (if b.answer p then 1 else 0))).answerTo "mysql" () p) (b.answer p) := by
    intro p
    cases p <;> first | exact .one | exact .zero
  obtain ⟨s, hs, -, hfragment⟩ := detect_accepts_iff htruthful {} { name := "n" }
  obtain ⟨f, hf, -, haccepts, -⟩ := hfragment "50%_A\\" (by decide)
  exact ⟨s, f, hs, hf, (haccepts _ (by decide)).mpr (by decide +kernel),
    fun h => absurd ((haccepts _ (by decide)).mp h) (by decide +kernel)⟩

end RecordFilter
