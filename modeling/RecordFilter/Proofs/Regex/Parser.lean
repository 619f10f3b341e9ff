import RecordFilter.Proofs.Regex.Reader
import RecordFilter.Proofs.Regex.Sequence
import RecordFilter.Regex.Parser

/-!
# Proofs/Regex/Parser — how single constructs are read

`Adds f cs tail ts` says that the parser, in front of `tail`, takes the text `cs` for the trees `ts`
and goes on with `tail`. Texts that add trees may be put one behind the other (`Adds.append`), and
an expression that is such a text compiles (`compile_of_adds`).
-/

namespace RecordFilter.Regex

/-- The flags leave every character of an expression in place and the ends of a text its only ends
of lines. -/
structure Flags.Plain (f : Flags) : Prop where
  freeSpacing : f.freeSpacing = false
  unicode : f.unicode = true
  multiLine : f.multiLine = false
  crlf : f.crlf = false

variable {f : Flags}

namespace Reader

/-- Without free spacing nothing is skipped. -/
theorem skip_eq (hf : f.Plain) (cs : List Char) : skip f cs = cs := by
  cases cs <;> simp [skip, takeSpaced, hf.freeSpacing]

/-! ## Escapes -/

/-- No character that stands for itself behind a backslash is a control character's letter. -/
theorem control?_of_isEscapable {c : Char} (hc : isEscapable c = true) : control? c = none := by
  unfold control?
  split <;> first | rfl | exact absurd hc (by decide)

/-- A backslash makes every character plain that it may stand before. -/
theorem escape_of_isEscapable {c : Char} (hc : isEscapable c = true) (rest : List Char) :
    escape f (c :: rest) = .ok (.literal c, rest) := by
  rw [escape.eq_def]
  split
  case h_1 => contradiction
  case h_19 heq =>
    obtain ⟨rfl, rfl⟩ := List.cons.inj heq
    simp only [control?_of_isEscapable hc, hc, if_true]
  -- Every other case is a letter or an angle bracket.
  all_goals
    next heq =>
      obtain ⟨rfl, -⟩ := List.cons.inj heq
      exact absurd hc (by decide)

/-! ## Bracket classes -/

/-- A hyphen that comes first in a class is a character of it. -/
theorem openBracket_hyphen (hf : f.Plain) (rest : List Char) :
    openBracket f ('-' :: ']' :: rest) = .ok (⟨false, [.literal '-'], none⟩, ']' :: rest) := by
  simp [openBracket, skip_eq hf, takeWhile, takeSpaced, hf.freeSpacing]

theorem openBracket_bracket (hf : f.Plain) (rest : List Char) :
    openBracket f (']' :: rest) = .ok (⟨false, [.literal ']'], none⟩, rest) := by
  simp [openBracket, skip_eq hf, takeWhile, takeSpaced, hf.freeSpacing]

/-- All but three characters leave the opening of a class empty. -/
theorem openBracket_other (hf : f.Plain) {c : Char} (hc : c ≠ '^' ∧ c ≠ '-' ∧ c ≠ ']')
    (rest : List Char) : openBracket f (c :: rest) = .ok (⟨false, [], none⟩, c :: rest) := by
  obtain ⟨hcaret, hhyphen, hbracket⟩ := hc
  simp [openBracket, skip_eq hf, takeWhile, takeSpaced, hf.freeSpacing, hcaret, hhyphen, hbracket]

/-- The class ends at the first closing bracket that no bracket inside takes. -/
theorem classRest_end (hf : f.Plain) (fuel : Nat) (b : Bracket) (rest : List Char) :
    classRest f (fuel + 1) b [] (']' :: rest) = .ok (b, rest) := by
  simp [classRest, skip_eq hf]

/-- A class of one character, which opens nothing itself. -/
theorem classRest_literal (hf : f.Plain) {c : Char} (hc : c ≠ '\\' ∧ c ≠ '[' ∧ c ≠ ']')
    (fuel : Nat) (b : Bracket) (rest : List Char) :
    classRest f (fuel + 2) b [] (c :: ']' :: rest) = .ok (b.add (.literal c), rest) := by
  obtain ⟨hback, hopen, hclose⟩ := hc
  have hpart : classPart f (c :: ']' :: rest) = .ok (.literal c, ']' :: rest) := by
    simp [classPart, classItem, skip_eq hf, itemTree, classLiteral, hf.unicode]
    rfl
  rw [classRest, skip_eq hf]
  split
  case h_1 heq => cases heq
  case h_2 heq => exact absurd (List.cons.inj heq).1 hclose
  case h_3 heq => exact absurd (List.cons.inj heq).1 hopen
  case h_4 heq => cases heq
  case h_5 heq => cases heq
  case h_6 heq => cases heq
  case h_7 => simp [hpart, classRest_end hf, bind, Except.bind]

/-- **A class of one plain character is read as that character.** -/
theorem bracketClass_single (hf : f.Plain) {c : Char} (hc : c ≠ '^' ∧ c ≠ '\\' ∧ c ≠ '[')
    (rest : List Char) :
    bracketClass f (c :: ']' :: rest) = .ok (.bracket false (.literal c), rest) := by
  obtain ⟨hcaret, hback, hopen⟩ := hc
  rw [bracketClass]
  by_cases hhyphen : c = '-'
  · subst hhyphen
    rw [openBracket_hyphen hf]
    simp [bind, Except.bind, classRest_end hf]
    rfl
  by_cases hclose : c = ']'
  · subst hclose
    rw [openBracket_bracket hf]
    simp [bind, Except.bind, classRest_end hf]
    rfl
  · rw [openBracket_other hf ⟨hcaret, hhyphen, hclose⟩]
    simp [bind, Except.bind, classRest_literal hf ⟨hback, hopen, hclose⟩]
    rfl

end Reader

/-! ## One construct at a time -/

namespace State

variable {cs ds tail : List Char} {ts us : List Tree} {items : List Tree}

/-- The state after some items, last first, outside all groups. -/
def reading (f : Flags) (items : List Tree) : State := ⟨f, ⟨items, []⟩, [], []⟩

/-- In front of `tail`, the parser takes `cs` for the trees `ts` and goes on with `tail`. -/
def Adds (f : Flags) (cs tail : List Char) (ts : List Tree) : Prop :=
  ∀ fuel items, (cs ++ tail).length ≤ fuel → ∃ fuel', tail.length ≤ fuel' ∧
    run fuel (reading f items) (cs ++ tail) = run fuel' (reading f (ts.reverse ++ items)) tail

theorem Adds.nil : Adds f [] tail [] := fun fuel _ h => ⟨fuel, h, rfl⟩

/-- **Texts that add trees may follow each other.** -/
theorem Adds.append (h : Adds f cs (ds ++ tail) ts) (h' : Adds f ds tail us) :
    Adds f (cs ++ ds) tail (ts ++ us) := by
  intro fuel items hfuel
  rw [List.append_assoc] at hfuel ⊢
  obtain ⟨fuel₁, hfuel₁, hrun₁⟩ := h fuel items hfuel
  obtain ⟨fuel₂, hfuel₂, hrun₂⟩ := h' fuel₁ (ts.reverse ++ items) hfuel₁
  refine ⟨fuel₂, hfuel₂, ?_⟩
  rw [hrun₁, hrun₂, List.reverse_append, List.append_assoc]

/-- One step of the parser is one round of its loop. -/
theorem run_step {fuel : Nat} {st st' : State} {c : Char} {rest : List Char}
    (h : st.step c cs = .ok (st', rest)) : run (fuel + 1) st (c :: cs) = run fuel st' rest := by
  rw [run, h]
  rfl

/-- A text that one step takes off adds what the step adds. -/
theorem adds_of_step {c : Char} {t : Tree}
    (h : ∀ items, (reading f items).step c (cs ++ tail) = .ok (reading f (t :: items), tail)) :
    Adds f (c :: cs) tail [t] := by
  rintro (_ | fuel) items hfuel
  · exact absurd hfuel (by simp)
  · refine ⟨fuel, ?_, run_step (h items)⟩
    simp only [List.cons_append, List.length_cons, List.length_append] at hfuel
    omega

/-- The characters that start something other than themselves. -/
def constructs : List Char := ['(', ')', '|', '?', '*', '+', '{', '[', '\\', '.', '^', '$']

/-- Whether a character starts something other than itself. -/
def isConstruct (c : Char) : Bool := constructs.contains c

/-- What holds of all characters that start something and not of `c` tells that `c` starts
nothing. -/
theorem isConstruct_eq_false {p : Char → Bool} (hp : constructs.all p = true) {c : Char}
    (hc : p c = false) : isConstruct c = false := by
  refine Bool.eq_false_iff.mpr fun hconstruct => ?_
  rw [List.all_eq_true.mp hp c (List.contains_iff_mem.mp hconstruct)] at hc
  cases hc

/-- A character that starts no construct is added as itself. -/
theorem step_literal (hf : f.Plain) {c : Char} (hc : isConstruct c = false) :
    (reading f items).step c cs = .ok (reading f (.leaf f (.literal c) :: items), cs) := by
  simp only [step, reading, hf.freeSpacing, Bool.false_and, Bool.false_eq_true, if_false]
  split
  case h_13 => rfl
  all_goals exact absurd hc (by decide)

theorem adds_literal (hf : f.Plain) {c : Char} (hc : isConstruct c = false) (tail : List Char) :
    Adds f [c] tail [.leaf f (.literal c)] := adds_of_step fun _ => step_literal hf hc

/-- An escape is read in one step. -/
theorem adds_escape (hf : f.Plain) {c : Char} (hc : Reader.isEscapable c = true)
    (tail : List Char) : Adds f ['\\', c] tail [.leaf f (.literal c)] :=
  adds_of_step fun _ => by
    simp [step, reading, hf.freeSpacing, Reader.escape_of_isEscapable hc, bind, Except.bind]
    rfl

/-- A class of one character is read in one step, the brackets included. -/
theorem adds_bracket (hf : f.Plain) {c : Char} (hc : c ≠ '^' ∧ c ≠ '\\' ∧ c ≠ '[')
    (tail : List Char) : Adds f ['[', c, ']'] tail [.leaf f (.bracket false (.literal c))] :=
  adds_of_step fun _ => by
    simp [step, reading, hf.freeSpacing, Reader.bracketClass_single hf hc, bind, Except.bind]
    rfl

/-- The point and the two anchors are steps of their own. -/
theorem step_leaf (hf : f.Plain) :
    (reading f items).step '.' cs = .ok (reading f (.leaf f .dot :: items), cs) ∧
    (reading f items).step '^' cs = .ok (reading f (.leaf f .caret :: items), cs) ∧
    (reading f items).step '$' cs = .ok (reading f (.leaf f .dollar :: items), cs) := by
  refine ⟨?_, ?_, ?_⟩ <;> simp [step, reading, hf.freeSpacing, hf.unicode] <;> rfl

theorem adds_dot (hf : f.Plain) (tail : List Char) : Adds f ['.'] tail [.leaf f .dot] :=
  adds_of_step fun _ => (step_leaf hf).1

theorem adds_caret (hf : f.Plain) (tail : List Char) : Adds f ['^'] tail [.leaf f .caret] :=
  adds_of_step fun _ => (step_leaf hf).2.1

theorem adds_dollar (hf : f.Plain) (tail : List Char) : Adds f ['$'] tail [.leaf f .dollar] :=
  adds_of_step fun _ => (step_leaf hf).2.2

/-- A star repeats the point before it, unless a question mark behind it belongs to it. -/
theorem adds_dotStar (hf : f.Plain) (htail : tail.head? ≠ some '?') :
    Adds f ['.', '*'] tail [.rep (.leaf f .dot) 0 none (false == f.swapGreed)] := by
  have htake : takeLazy tail = (false, tail) := by
    unfold takeLazy
    split
    · simp at htail
    · rfl
  have hstar : ∀ items, (reading f (.leaf f .dot :: items)).step '*' tail =
      .ok (reading f (.rep (.leaf f .dot) 0 none (false == f.swapGreed) :: items), tail) := by
    intro _
    simp [step, reading, hf.freeSpacing, addRepeat, htake]
  intro fuel items hfuel
  obtain ⟨_ | fuel₁, hfuel₁, hrun₁⟩ := adds_dot hf ('*' :: tail) fuel items hfuel
  · exact absurd hfuel₁ (by simp)
  · exact ⟨fuel₁, Nat.le_of_succ_le_succ hfuel₁, hrun₁.trans (run_step (hstar items))⟩

end State

/-! ## Whole expressions -/

/-- What compiles is the meaning of what the parser reads. -/
theorem exists_parse {f : Flags} {source : String} {r : Regex} (h : compile f source = .ok r) :
    ∃ tree, Tree.parse f source = .ok tree ∧ tree.regex = r := by
  obtain ⟨tree, hparse, h⟩ := bind_eq_ok_iff.mp h
  split at h
  · exact ⟨tree, hparse, Except.ok.inj h⟩
  · cases h

/-- **An expression that adds flat trees compiles to their sequence.** -/
theorem compile_of_adds {source : String} {ts : List Tree}
    (h : State.Adds f source.toList [] ts) (hts : ∀ t ∈ ts, t.height ≤ 1) :
    compile f source = .ok (Tree.sequence ts).regex := by
  have hparse : Tree.parse f source = .ok (Tree.sequence ts) := by
    obtain ⟨fuel, -, hrun⟩ := h source.toList.length [] (by simp)
    simp only [List.append_nil] at hrun
    calc Tree.parse f source
      _ = State.run fuel (State.reading f ts.reverse) [] := hrun
      _ = .ok (Tree.sequence ts.reverse.reverse) := by cases fuel <;> rfl
      _ = .ok (Tree.sequence ts) := by rw [List.reverse_reverse]
  have hheight : (Tree.sequence ts).height ≤ nestingLimit :=
    (height_sequence_le hts).trans (by decide)
  rw [compile, hparse]
  simp [bind, Except.bind, hheight]
  rfl

end RecordFilter.Regex
