import Mathlib.Data.List.Forall2
import RecordFilter.Proofs.Regex.Parser

/-!
# Proofs/Regex/Tokens — expressions made of tokens

`ReadsAs f cs ts` says that the parser takes the text `cs` for trees that stand for the tokens `ts`.
Each token has its spellings, which may follow one another, and between anchors or open ends such a
text compiles to an expression that finds what the tokens spell (`compile_of_readsAs`).
-/

namespace RecordFilter.Regex

open Like (Token Spells Found)

variable {f : Flags} {cs ds tail : List Char} {ts us : List Token}

/-- The tree means what the token means, and is flat. -/
structure StandsFor (f : Flags) (t : Tree) (tok : Token) : Prop where
  regex_eq : t.regex = ofToken f tok
  height_le : t.height ≤ 1

/-- The parser takes `cs` for trees that stand for `ts`, whatever follows but a question mark, which
would change the greed of a star. -/
def ReadsAs (f : Flags) (cs : List Char) (ts : List Token) : Prop :=
  ∃ trees, List.Forall₂ (StandsFor f) trees ts ∧
    ∀ tail : List Char, tail.head? ≠ some '?' → State.Adds f cs tail trees

namespace ReadsAs

theorem nil : ReadsAs f [] [] := ⟨[], .nil, fun _ _ => .nil⟩

/-- **What is read may follow each other.** -/
theorem append (h : ReadsAs f cs ts) (h' : ReadsAs f ds us) (hds : ds.head? ≠ some '?') :
    ReadsAs f (cs ++ ds) (ts ++ us) := by
  obtain ⟨trees, htrees, hadds⟩ := h
  obtain ⟨trees', htrees', hadds'⟩ := h'
  refine ⟨trees ++ trees', List.rel_append htrees htrees', fun tail htail => ?_⟩
  have hhead : (ds ++ tail).head? ≠ some '?' := by
    cases ds with
    | nil => exact htail
    | cons d ds => exact hds
  exact (hadds _ hhead).append (hadds' tail htail)

/-- One tree for one token. -/
theorem of_adds {t : Tree} {tok : Token} (ht : StandsFor f t tok)
    (h : ∀ tail : List Char, tail.head? ≠ some '?' → State.Adds f cs tail [t]) :
    ReadsAs f cs [tok] :=
  ⟨[t], .cons ht .nil, h⟩

variable (hf : f.Plain)
include hf

/-- A character that starts no construct is read as itself. -/
theorem literal {c : Char} (hc : State.isConstruct c = false) : ReadsAs f [c] [.literal c] :=
  of_adds (t := .leaf f (.literal c)) ⟨rfl, Nat.zero_le 1⟩ fun tail _ =>
    State.adds_literal hf hc tail

/-- A character that may be escaped is read as itself behind a backslash. -/
theorem escape {c : Char} (hc : Reader.isEscapable c = true) : ReadsAs f ['\\', c] [.literal c] :=
  of_adds (t := .leaf f (.literal c)) ⟨rfl, Nat.zero_le 1⟩ fun tail _ =>
    State.adds_escape hf hc tail

/-- A class of one character is that character. A caret, a backslash or a bracket would open a
longer class. -/
theorem bracket {c : Char} (hc : c ≠ '^' ∧ c ≠ '\\' ∧ c ≠ '[') :
    ReadsAs f ['[', c, ']'] [.literal c] :=
  of_adds (t := .leaf f (.bracket false (.literal c))) ⟨rfl, Nat.le_refl 1⟩ fun tail _ =>
    State.adds_bracket hf hc tail

theorem dot : ReadsAs f ['.'] [.anyChar] :=
  of_adds (t := .leaf f .dot) ⟨rfl, Nat.zero_le 1⟩ fun tail _ => State.adds_dot hf tail

/-- A point and a star are a run. A question mark behind them would change the greed, which is why
the tail must not start with one. -/
theorem dotStar : ReadsAs f ['.', '*'] [.anyRun] :=
  of_adds (t := .rep (.leaf f .dot) 0 none _) ⟨rfl, Nat.le_refl 1⟩ fun _ htail =>
    State.adds_dotStar hf htail

end ReadsAs

/-- The text of an expression with an anchor at every end that is not open. -/
def anchoredText (openStart openEnd : Bool) (body : List Char) : List Char :=
  (if openStart then [] else ['^']) ++ body ++ if openEnd then [] else ['$']

/-- Trees that stand for tokens mean what the tokens mean. -/
theorem map_regex_of_standsFor : ∀ {trees : List Tree} {ts : List Token},
    List.Forall₂ (StandsFor f) trees ts → trees.map Tree.regex = ts.map (ofToken f)
  | _, _, .nil => rfl
  | _, _, .cons h hs => congrArg₂ List.cons h.regex_eq (map_regex_of_standsFor hs)

theorem height_le_of_standsFor : ∀ {trees : List Tree} {ts : List Token},
    List.Forall₂ (StandsFor f) trees ts → ∀ t ∈ trees, t.height ≤ 1
  | _, _, .nil, _, ht => nomatch ht
  | _, _, .cons h _, _, .head _ => h.height_le
  | _, _, .cons _ hs, t, .tail _ ht => height_le_of_standsFor hs t ht

/-- **Anchors are read around a body without disturbing it.** -/
theorem adds_anchoredText (hf : f.Plain) {os oe : Bool} {body : List Char} {trees : List Tree}
    (h : ∀ tail : List Char, tail.head? ≠ some '?' → State.Adds f body tail trees) :
    State.Adds f (anchoredText os oe body) [] (anchored f os oe trees) := by
  have hstart : State.Adds f (if os then [] else ['^']) (body ++ ((if oe then [] else ['$']) ++ []))
      (if os then [] else [.leaf f .caret]) := by
    cases os with
    | true => exact .nil
    | false => exact State.adds_caret hf _
  have hend : State.Adds f (if oe then [] else ['$']) []
      (if oe then [] else [.leaf f .dollar]) := by
    cases oe with
    | true => exact .nil
    | false => exact State.adds_dollar hf _
  rw [anchoredText, List.append_assoc, anchored, List.append_assoc]
  exact .append (by rwa [List.append_assoc]) ((h _ (by cases oe <;> simp)).append hend)

/-- **Between anchors or open ends, a text read as tokens finds what the tokens spell.** -/
theorem compile_of_readsAs (hf : f.Plain) {source : String} {os oe : Bool} {body : List Char}
    (hsource : source.toList = anchoredText os oe body) (h : ReadsAs f body ts) :
    ∃ r, compile f source = .ok r ∧ r.Ordered ∧
      ∀ t, r.Finds t ↔ Found os oe (Spells f.same f.wild ts) t := by
  obtain ⟨trees, htrees, hadds⟩ := h
  have hmap := map_regex_of_standsFor htrees
  refine ⟨(Tree.sequence (anchored f os oe trees)).regex, ?_,
    ordered_anchored (ordered_of_tokens hmap), fun t => finds_tokens_iff hf.multiLine hmap⟩
  exact compile_of_adds (hsource ▸ adds_anchoredText hf hadds)
    (forall_mem_anchored (Nat.zero_le 1) (Nat.zero_le 1) (height_le_of_standsFor htrees))

end RecordFilter.Regex
