import Mathlib.Logic.Basic
import RecordFilter.Downgrade.Token

/-!
# Proofs/Like/Spelling — what a list of tokens spells

`Spells same wild ts s` says that the tokens `ts` spell the text `s` when a plain character stands
for the characters it is the `same` as, and wildcards only for `wild` characters. With every
character wild this is `Matches` (`spells_true_iff`).

An expression with an open end may stand anywhere towards that end of a text, which `Found` says. A
run of any characters at that end means the same (`matches_withOpenEnds_iff`), and so does one run
in place of several (`matches_collapse_iff`).
-/

namespace RecordFilter.Like

variable {same : Char → Char → Prop} {wild wild' : Char → Prop}

/-- The tokens spell the text, with wildcards for `wild` characters alone. -/
def Spells (same : Char → Char → Prop) (wild : Char → Prop) : List Token → List Char → Prop
  | [], s => s = []
  | .literal c :: ts, s => ∃ d rest, s = d :: rest ∧ same c d ∧ Spells same wild ts rest
  | .anyChar :: ts, s => ∃ d rest, s = d :: rest ∧ wild d ∧ Spells same wild ts rest
  | .anyRun :: ts, s =>
    ∃ run rest, s = run ++ rest ∧ (∀ d ∈ run, wild d) ∧ Spells same wild ts rest

/-- A text in two parts may be read off its first character on. -/
theorem exists_cons_append_iff {P : Char → Prop} {L M : List Char → Prop} {s : List Char} :
    (∃ d rest, s = d :: rest ∧ P d ∧ ∃ a b, rest = a ++ b ∧ L a ∧ M b) ↔
      ∃ a b, s = a ++ b ∧ (∃ d rest, a = d :: rest ∧ P d ∧ L rest) ∧ M b := by
  constructor
  · rintro ⟨d, _, rfl, hd, a, b, rfl, ha, hb⟩
    exact ⟨d :: a, b, rfl, ⟨d, a, rfl, hd, ha⟩, hb⟩
  · rintro ⟨_, b, rfl, ⟨d, a, rfl, hd, ha⟩, hb⟩
    exact ⟨d, a ++ b, rfl, hd, a, b, rfl, ha, hb⟩

/-- **Tokens behind one another spell texts behind one another.** -/
theorem spells_append_iff : ∀ {ts us : List Token} {s : List Char},
    Spells same wild (ts ++ us) s ↔
      ∃ a b, s = a ++ b ∧ Spells same wild ts a ∧ Spells same wild us b
  | [], us, s => by
      constructor
      · exact fun h => ⟨[], s, rfl, rfl, h⟩
      · rintro ⟨a, b, rfl, rfl, h⟩
        exact h
  | .literal c :: ts, us, s => by
      refine Iff.trans (exists₂_congr fun d rest => ?_) exists_cons_append_iff
      exact and_congr_right fun _ => and_congr_right fun _ => spells_append_iff
  | .anyChar :: ts, us, s => by
      refine Iff.trans (exists₂_congr fun d rest => ?_) exists_cons_append_iff
      exact and_congr_right fun _ => and_congr_right fun _ => spells_append_iff
  | .anyRun :: ts, us, s => by
      constructor
      · rintro ⟨run, rest, rfl, hrun, h⟩
        obtain ⟨a, b, rfl, ha, hb⟩ := spells_append_iff.mp h
        exact ⟨run ++ a, b, (List.append_assoc ..).symm, ⟨run, a, rfl, hrun, ha⟩, hb⟩
      · rintro ⟨_, b, rfl, ⟨run, a, rfl, hrun, ha⟩, hb⟩
        exact ⟨run, a ++ b, List.append_assoc .., hrun, spells_append_iff.mpr ⟨a, b, rfl, ha, hb⟩⟩

/-- A first run takes in more wild characters. -/
theorem Spells.append_of_anyRun {ts : List Token} {b s : List Char} (hb : ∀ d ∈ b, wild d)
    (h : Spells same wild (.anyRun :: ts) s) : Spells same wild (.anyRun :: ts) (b ++ s) := by
  obtain ⟨run, rest, rfl, hrun, h⟩ := h
  refine ⟨b ++ run, rest, (List.append_assoc ..).symm, fun d hd => ?_, h⟩
  exact (List.mem_append.mp hd).elim (hb d) (hrun d)

/-- More wild characters spell more texts. -/
theorem Spells.mono (hw : ∀ d, wild d → wild' d) : ∀ {ts : List Token} {s : List Char},
    Spells same wild ts s → Spells same wild' ts s
  | [], _, h => h
  | .literal _ :: _, _, ⟨d, rest, hs, hd, h⟩ => ⟨d, rest, hs, hd, h.mono hw⟩
  | .anyChar :: _, _, ⟨d, rest, hs, hd, h⟩ => ⟨d, rest, hs, hw d hd, h.mono hw⟩
  | .anyRun :: _, _, ⟨run, rest, hs, hrun, h⟩ =>
      ⟨run, rest, hs, fun d hd => hw d (hrun d hd), h.mono hw⟩

/-- Where a text has only wild characters, it does not matter which others there are. -/
theorem Spells.of_forall_mem : ∀ {ts : List Token} {s : List Char}, (∀ d ∈ s, wild d) →
    Spells same wild' ts s → Spells same wild ts s
  | [], _, _, h => h
  | .literal _ :: _, _, hs, ⟨d, rest, heq, hd, h⟩ => by
      subst heq
      exact ⟨d, rest, rfl, hd, h.of_forall_mem fun x hx => hs x (List.mem_cons_of_mem _ hx)⟩
  | .anyChar :: _, _, hs, ⟨d, rest, heq, _, h⟩ => by
      subst heq
      exact ⟨d, rest, rfl, hs d (by simp), h.of_forall_mem fun x hx =>
        hs x (List.mem_cons_of_mem _ hx)⟩
  | .anyRun :: _, _, hs, ⟨run, rest, heq, _, h⟩ => by
      subst heq
      exact ⟨run, rest, rfl, fun x hx => hs x (List.mem_append_left _ hx),
        h.of_forall_mem fun x hx => hs x (List.mem_append_right _ hx)⟩

/-- **With every character wild, tokens spell the texts that they match.** -/
theorem spells_true_iff : ∀ {ts : List Token} {s : List Char},
    Spells same (fun _ => True) ts s ↔ Matches same ts s
  | [], _ => Iff.rfl
  | .literal _ :: _, _ => exists₂_congr fun _ _ => and_congr_right fun _ =>
      and_congr_right fun _ => spells_true_iff
  | .anyChar :: _, _ => exists₂_congr fun _ _ => and_congr_right fun _ =>
      (and_iff_right trivial).trans spells_true_iff
  | .anyRun :: _, _ => exists₂_congr fun _ _ => and_congr_right fun _ =>
      (and_iff_right fun _ _ => trivial).trans spells_true_iff

/-! ## Widths -/

/-- The least length of a text that the tokens spell. -/
def width : List Token → Nat
  | [] => 0
  | .anyRun :: ts => width ts
  | .literal _ :: ts => width ts + 1
  | .anyChar :: ts => width ts + 1

theorem width_le_cons (tok : Token) (ts : List Token) : width ts ≤ width (tok :: ts) := by
  cases tok <;> simp [width]

theorem width_cons_of_ne {tok : Token} (h : tok ≠ .anyRun) (ts : List Token) :
    width (tok :: ts) = width ts + 1 := by
  cases tok with
  | anyRun => exact absurd rfl h
  | _ => rfl

/-- A spelled text is as long as its tokens ask for. -/
theorem Spells.width_le : ∀ {ts : List Token} {s : List Char}, Spells same wild ts s →
    width ts ≤ s.length
  | [], _, _ => Nat.zero_le _
  | .literal _ :: _, _, ⟨_, _, hs, _, h⟩ => hs ▸ Nat.succ_le_succ h.width_le
  | .anyChar :: _, _, ⟨_, _, hs, _, h⟩ => hs ▸ Nat.succ_le_succ h.width_le
  | .anyRun :: _, _, ⟨run, rest, hs, _, h⟩ => by
      subst hs
      rw [width, List.length_append]
      exact Nat.le_add_left_of_le h.width_le

/-! ## Runs of any characters -/

/-- Two runs in a row spell what one spells. -/
@[simp] theorem matches_anyRun_anyRun_iff {ts : List Token} {s : List Char} :
    Matches same (.anyRun :: .anyRun :: ts) s ↔ Matches same (.anyRun :: ts) s := by
  constructor
  · rintro ⟨a, _, rfl, b, rest, rfl, h⟩
    exact ⟨a ++ b, rest, (List.append_assoc ..).symm, h⟩
  · exact fun h => ⟨[], s, rfl, h⟩

/-- **One run in place of several in a row matches the same texts.** -/
@[simp] theorem matches_collapse_iff (ts : List Token) (s : List Char) :
    Matches same (Downgrade.collapse ts) s ↔ Matches same ts s := by
  induction ts using Downgrade.collapse.induct generalizing s with
  | case1 rest ih => rw [Downgrade.collapse, ih, matches_anyRun_anyRun_iff]
  | case2 t rest h ih =>
    rw [Downgrade.collapse.eq_2 t rest h]
    cases t with
    | literal c => exact exists₂_congr fun _ _ => and_congr_right fun _ =>
        and_congr_right fun _ => ih _
    | anyChar => exact exists₂_congr fun _ _ => and_congr_right fun _ => ih _
    | anyRun => exact exists₂_congr fun _ _ => and_congr_right fun _ => ih _
  | case3 => rw [Downgrade.collapse]

/-- Runs that are dropped leave one of them behind. -/
@[simp] theorem mem_collapse_iff {tok : Token} (ts : List Token) :
    tok ∈ Downgrade.collapse ts ↔ tok ∈ ts := by
  induction ts using Downgrade.collapse.induct with
  | case1 rest ih => simp [Downgrade.collapse, ih]
  | case2 t rest h ih => simp [Downgrade.collapse.eq_2 t rest h, ih]
  | case3 => rw [Downgrade.collapse]

/-- A text spelled by `L` stands in `t`, at the start unless that end is open, and at the end unless
that one is. -/
def Found (openStart openEnd : Bool) (L : List Char → Prop) (t : List Char) : Prop :=
  ∃ pre s post, t = pre ++ s ++ post ∧ L s ∧
    (openStart = false → pre = []) ∧ (openEnd = false → post = [])

theorem Found.imp {os oe : Bool} {L L' : List Char → Prop} {t : List Char}
    (h : ∀ s, L s → L' s) : Found os oe L t → Found os oe L' t
  | ⟨pre, s, post, ht, hs, hp⟩ => ⟨pre, s, post, ht, h s hs, hp⟩

/-- What is found depends only on which texts are looked for. -/
theorem found_congr {os oe : Bool} {L L' : List Char → Prop} {t : List Char}
    (h : ∀ s, L s ↔ L' s) : Found os oe L t ↔ Found os oe L' t :=
  ⟨.imp fun s => (h s).mp, .imp fun s => (h s).mpr⟩

/-- The tokens with a run of any characters at each open end. -/
def withOpenEnds (openStart openEnd : Bool) (ts : List Token) : List Token :=
  (if openStart then [.anyRun] else []) ++ ts ++ if openEnd then [.anyRun] else []

@[simp] theorem withOpenEnds_false_false (ts : List Token) : withOpenEnds false false ts = ts :=
  List.append_nil ts

/-- **Runs at the open ends match whatever stands around a text that the tokens match.** -/
theorem matches_withOpenEnds_iff {os oe : Bool} {ts : List Token} {t : List Char} :
    Matches same (withOpenEnds os oe ts) t ↔ Found os oe (Matches same ts) t := by
  have hrun : ∀ (o : Bool) (s : List Char),
      Spells same (fun _ => True) (if o then [.anyRun] else []) s ↔ (o = false → s = []) := by
    intro o s
    cases o with
    | false => simp [Spells]
    | true => exact iff_of_true ⟨s, [], by simp, by simp, rfl⟩ nofun
  refine Iff.trans ?_ (found_congr fun s => spells_true_iff)
  simp only [← spells_true_iff, withOpenEnds, spells_append_iff, hrun]
  constructor
  · rintro ⟨_, post, rfl, ⟨pre, s, rfl, hpre, hs⟩, hpost⟩
    exact ⟨pre, s, post, rfl, hs, hpre, hpost⟩
  · rintro ⟨pre, s, post, rfl, hs, hpre, hpost⟩
    exact ⟨pre ++ s, post, rfl, ⟨pre, s, rfl, hpre, hs⟩, hpost⟩

end RecordFilter.Like
