import Mathlib.Data.List.Infix
import RecordFilter.Proofs.Detection.Answers

/-!
# Proofs/Detection/Protocol — what a detection asks

A detection puts its questions one after the other, and each answer may depend on all questions
before. `asked` are the probes it comes to: all of them, or those up to the first that fails
(`asked_append`). An executor that notes down its questions answers like the one it wraps, so what
stands in its notes behind a detection is what any executor is asked (`detect_recorded`).
-/

namespace RecordFilter

/-! ## Names of backends -/

namespace Text

variable {mark cs : List Char}

/-- Looking for a mark finds it exactly if it is in the text. -/
theorem isSome_splitAt?_iff (hmark : mark ≠ []) :
    (splitAt? mark cs).isSome = true ↔ mark <:+: cs := by
  induction cs with
  | nil => simp [splitAt?, hmark]
  | cons c cs ih =>
    rw [splitAt?, List.infix_cons_iff, ← ih, ← List.isPrefixOf_iff_prefix]
    by_cases hc : mark.isPrefixOf (c :: cs) = true <;> simp [hc]

end Text

/-- **The collation is needed exactly if the name has "mysql" in it**, in lower case. -/
theorem needsCollation_iff (backend : String) :
    needsCollation backend = true ↔ "mysql".toList <:+: backend.toList :=
  Text.isSome_splitAt?_iff (by decide)

/-! ## The probes that are asked -/

variable {σ β : Type} {e : Executor σ} {c : Option String} {x : σ} {qs : List Question}
  {p : Probe} {pre ps : List Probe}

namespace Executor

/-- The probes of a list that are asked, which ends with the first that fails. -/
def asked (e : Executor σ) (c : Option String) : List Probe → σ → List Probe
  | [], _ => []
  | p :: ps, x =>
    if failure? (e.select p c x).1 = none then p :: e.asked c ps (e.select p c x).2 else [p]

/-- No probe fails when they are asked in order. -/
def Completes (e : Executor σ) (c : Option String) : List Probe → σ → Prop
  | [], _ => True
  | p :: ps, x => failure? (e.select p c x).1 = none ∧ e.Completes c ps (e.select p c x).2

/-- **Probes that do not fail are asked, and then those behind them.** -/
theorem asked_append (h : e.Completes c pre x) :
    e.asked c (pre ++ ps) x = pre ++ e.asked c ps (e.after c pre x) := by
  induction pre generalizing x with
  | nil => rfl
  | cons p pre ih => exact (if_pos h.1).trans (congrArg (p :: ·) (ih h.2))

/-- Where no probe fails, all are asked. -/
theorem asked_eq_self (h : e.Completes c ps x) : e.asked c ps x = ps := by
  have happend : e.asked c (ps ++ []) x = ps ++ e.asked c [] (e.after c ps x) := asked_append h
  simpa [asked] using happend

/-- The executor behind the probes that are asked. -/
theorem after_asked_cons : e.after c (e.asked c (p :: ps) x) x =
    if failure? (e.select p c x).1 = none then
      e.after c (e.asked c ps (e.select p c x).2) (e.select p c x).2
    else (e.select p c x).2 := by
  rw [asked]
  split <;> rfl

end Executor

namespace Probing

/-- The executor after some work. -/
def executor (m : Probing σ β) (x : σ) (log : List Event) : σ := (m.outcome x log).1.2

/-- A probe hands its executor on, and what comes after is left out if it fails. -/
theorem executor_ask_bind (k : Bool → Probing σ β) (log : List Event) :
    (p.ask e c >>= k).executor x log =
      if failure? (e.select p c x).1 = none then
        (k (saysYes (e.select p c x).1)).executor (e.select p c x).2
          (log ++ p.reports (e.select p c x).1)
      else (e.select p c x).2 := by
  rw [executor, outcome_ask_bind]
  dsimp only
  cases failure? (e.select p c x).1 <;> rfl

theorem executor_connect_bind (backend : String) (k : Option String → Probing σ β)
    (log : List Event) :
    (if needsCollation backend then modifyGetThe σ e.collation >>= k
      else pure none >>= k).executor x log =
      (k (e.connect backend x).1).executor (e.connect backend x).2 log :=
  congrArg (·.1.2) (outcome_connect_bind backend k log)

end Probing

/-- **A detection asks the probes in order**, up to the first that fails. -/
theorem detect_executor (session : Session) (e : Executor σ) (backend : String) (x : σ) :
    (session.detect e backend x).executor =
      e.after (e.connect backend x).1
        (e.asked (e.connect backend x).1 Probe.all (e.connect backend x).2)
        (e.connect backend x).2 := by
  have hexecutor : (session.detect e backend x).executor = (detect e backend).executor x [] := rfl
  rw [hexecutor, detect, Probing.executor_connect_bind]
  simp only [Probing.executor_ask_bind, Probe.all, Executor.after_asked_cons]
  rfl

/-! ## Questions noted down -/

/-- The question for a collation, which starts a detection where the probes need one. -/
def openingQuestions (backend : String) : List Question :=
  if needsCollation backend then [.collation] else []

namespace Executor

/-- Noting down questions does not change how a detection starts. -/
@[simp] theorem recorded_connect (backend : String) : e.recorded.connect backend (x, qs) =
    ((e.connect backend x).1, (e.connect backend x).2, qs ++ openingQuestions backend) := by
  rw [connect, connect, openingQuestions]
  split
  · rfl
  · rw [List.append_nil]

/-- The notes behind some probes are those before them, and the probes. -/
@[simp] theorem recorded_after : e.recorded.after c ps (x, qs) =
    (e.after c ps x, qs ++ ps.map (.probe · c)) := by
  induction ps generalizing x qs with
  | nil => rw [List.map_nil, List.append_nil]; rfl
  | cons p ps ih => exact ih.trans (congrArg (_, ·) (List.append_assoc ..))

/-- **Noting down a question does not change which ones follow.** -/
@[simp] theorem recorded_asked : e.recorded.asked c ps (x, qs) = e.asked c ps x := by
  induction ps generalizing x qs with
  | nil => rfl
  | cons p ps ih => rw [asked, asked, ← ih]; rfl

@[simp] theorem recorded_answerTo (backend : String) (p : Probe) :
    e.recorded.answerTo backend (x, qs) p = e.answerTo backend x p := by
  rw [answerTo, recorded_connect, recorded_after]
  rfl

end Executor

/-- **The notes behind a detection** are the question for the collation, if it is needed, and the
probes up to the first that fails. Taking them does not change the detection. -/
theorem detect_recorded (session : Session) (e : Executor σ) (backend : String) (x : σ) :
    let start := e.connect backend x
    let noted := session.detect e.recorded backend (x, [])
    noted.result = (session.detect e backend x).result ∧
    noted.executor = ((session.detect e backend x).executor,
      openingQuestions backend ++ (e.asked start.1 Probe.all start.2).map (.probe · start.1)) := by
  intro start noted
  constructor
  · simp [noted, detect_result, Executor.firstFailure?]
  · simp [noted, start, detect_executor]

/-! ## Answers and settings -/

/-- The probes in front of one are those asked before it. -/
theorem Probe.before_eq_of_all {post : List Probe} (h : Probe.all = pre ++ p :: post) :
    p.before = pre := by
  have htake : p.before = Probe.all.takeWhile (· ≠ p) := by cases p <;> rfl
  have hnodup : (pre ++ p :: post).Nodup := h ▸ by decide
  have hpre : ∀ q ∈ pre, decide (q ≠ p) = true := fun q hq =>
    decide_eq_true ((List.nodup_append.mp hnodup).2.2 q hq p List.mem_cons_self)
  rw [htake, h, List.takeWhile_append_of_pos hpre, List.takeWhile_cons_of_neg (by simp),
    List.append_nil]

namespace Executor

theorem completes_of_forall (h : ∀ a q b, ps = a ++ q :: b →
    failure? (e.select q c (e.after c a x)).1 = none) : e.Completes c ps x := by
  induction ps generalizing x with
  | nil => trivial
  | cons p ps ih =>
    exact ⟨h [] p ps rfl, ih fun a q b hps => h (p :: a) q b (congrArg (p :: ·) hps)⟩

/-- The first probes complete if none of them fails behind those before it. -/
theorem completes_of_answerTo {backend : String} {post : List Probe}
    (hall : Probe.all = pre ++ post)
    (h : ∀ q ∈ pre, failure? (e.answerTo backend x q) = none) :
    e.Completes (e.connect backend x).1 pre (e.connect backend x).2 := by
  refine completes_of_forall fun a q b hpre => ?_
  have hsplit : Probe.all = a ++ q :: (b ++ post) := by simp [hall, hpre]
  have hq := h q (hpre ▸ List.mem_append_right a List.mem_cons_self)
  rwa [answerTo, Probe.before_eq_of_all hsplit] at hq

/-- **Behind a probe that fails, none is asked.** -/
theorem asked_of_failure {backend reason : String} {post : List Probe}
    (hall : Probe.all = pre ++ p :: post)
    (hpre : ∀ q ∈ pre, failure? (e.answerTo backend x q) = none)
    (hp : failure? (e.answerTo backend x p) = some reason) :
    e.asked (e.connect backend x).1 Probe.all (e.connect backend x).2 = pre ++ [p] := by
  rw [answerTo, Probe.before_eq_of_all hall] at hp
  rw [hall, asked_append (completes_of_answerTo hall hpre), asked, hp, if_neg nofun]

end Executor

/-- The two answers that count as yes. -/
theorem saysYes_eq_true_iff {answer : Except ProbeError Value} :
    saysYes answer = true ↔ answer = .ok (.bool true) ∨ answer = .ok (.int 1) := by
  rcases answer with _ | _ | b | n | _ | _ <;> simp [saysYes, isYes]

/-- **The whole conversation.** A detection, whose course the notes do not change, asks for the
collation first, and only where the name of the backend has `mysql` in it. Then it asks the probes
in order, all with that collation, and stops at the first that fails, with its reason. If none fails
all are asked, and the settings are what the answers tell; wildcard matches are then asked for
exactly where they ignore case. -/
theorem detect_conversation (session : Session) (e : Executor σ) (backend : String) (x : σ) :
    let collation := if needsCollation backend then (e.collation x).1 else none
    let answer := e.answerTo backend x
    let noted := session.detect e.recorded backend (x, [])
    noted.result = (session.detect e backend x).result ∧
    noted.executor.1 = (session.detect e backend x).executor ∧
    (needsCollation backend = true ↔ "mysql".toList <:+: backend.toList) ∧
    (∀ p, saysYes (answer p) = true ↔
      answer p = .ok (.bool true) ∨ answer p = .ok (.int 1)) ∧
    (((∀ p, failure? (answer p) = none) ∧
        noted.executor.2 = openingQuestions backend ++ Probe.all.map (.probe · collation) ∧
        ∃ s, noted.result = .ok s ∧ s = .ofAnswers (fun p => saysYes (answer p)) ∧
          s.useLikeForCompare = !s.sensitiveLike) ∨
      ∃ pre p post reason, Probe.all = pre ++ p :: post ∧
        (∀ q ∈ pre, failure? (answer q) = none) ∧ failure? (answer p) = some reason ∧
        noted.executor.2 = openingQuestions backend ++ (pre ++ [p]).map (.probe · collation) ∧
        noted.result = .error (.probe reason)) := by
  intro collation answer noted
  obtain ⟨hresult, hexecutor⟩ := detect_recorded session e backend x
  have hcollation : (e.connect backend x).1 = collation := apply_ite Prod.fst ..
  have hnotes := congrArg Prod.snd hexecutor
  refine ⟨hresult, congrArg Prod.fst hexecutor, needsCollation_iff backend,
    fun p => saysYes_eq_true_iff, ?_⟩
  rw [show noted.result = _ from hresult.trans (detect_result session e backend x)]
  cases hfirst : e.firstFailure? backend x with
  | none =>
    have hanswered := (e.firstFailure?_eq_none_iff backend x).mp hfirst
    rw [Executor.asked_eq_self (Executor.completes_of_answerTo (List.append_nil _).symm
      fun q _ => hanswered q)] at hnotes
    exact .inl ⟨hanswered, hcollation ▸ hnotes, _, rfl, rfl, (Bool.not_not _).symm⟩
  | some reason =>
    obtain ⟨pre, p, post, hall, hp, hpre⟩ := List.findSome?_eq_some_iff.mp hfirst
    rw [Executor.asked_of_failure hall hpre hp] at hnotes
    exact .inr ⟨pre, p, post, reason, hall, hpre, hp, hcollation ▸ hnotes, rfl⟩

/-- The third probe fails, and the last one is not asked. -/
example :
    let e : Executor Unit := {
      collation := fun x => (some "utf8mb4_bin", x)
      select := fun p _ x =>
        (if p = .equality then .error (.failed "connection lost") else .ok (.bool true), x) }
    (Session.detect {} e.recorded "mysql2" ((), [])).executor.2 =
      [.collation, .probe .sensitiveLike (some "utf8mb4_bin"),
        .probe .insensitiveLike (some "utf8mb4_bin"), .probe .equality (some "utf8mb4_bin")] := by
  decide

end RecordFilter
