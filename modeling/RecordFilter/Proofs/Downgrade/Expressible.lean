import RecordFilter.Proofs.Downgrade.Conversion

/-!
# Proofs/Downgrade/Expressible — which syntax is converted

An expression is **expressible** if the parser itself reads it as single items between optional
anchors, each item spelled as a character, a point or a run of points. What does not stay as it is
is expressible if all its brackets are plain, and only then (`expressible_iff_plainBrackets`): the
sole construct that gets through besides is a class that goes on past the end of a line, and none
without a line end or an opening bracket.
-/

namespace RecordFilter

namespace Regex

/-- The trees of a sequence. -/
def Tree.parts : Tree → List Tree
  | .empty => []
  | .cat r s => r :: s.parts
  | t => [t]

variable {f : Flags} {os oe : Bool} {trees : List Tree}

/-- **A sequence tells its trees**, if none of them is a sequence itself. -/
theorem parts_sequence : ∀ {ts : List Tree}, (∀ t ∈ ts, t.parts = [t]) →
    (Tree.sequence ts).parts = ts
  | [], _ => rfl
  | [t], h => h t (List.mem_singleton_self t)
  | t :: _ :: _, h =>
    congrArg (t :: ·) (parts_sequence fun r hr => h r (List.mem_cons_of_mem t hr))

theorem parts_anchored (h : ∀ t ∈ trees, t.parts = [t]) :
    (Tree.sequence (anchored f os oe trees)).parts = anchored f os oe trees :=
  parts_sequence (forall_mem_anchored rfl rfl h)

end Regex

namespace Downgrade

open Regex (Flags Tree anchored anchoredText parts_anchored)

variable {f : Flags} {source : String} {ignoreCase : Bool} {tree : Tree}

/-- The tree is a sequence of items between optional anchors, and the text spells them one behind
the other. -/
def Expressible (f : Flags) (source : String) (tree : Tree) : Prop :=
  ∃ openStart openEnd ws items, source.toList = anchoredText openStart openEnd ws.flatten ∧
    List.Forall₂ (Item f) ws items ∧ tree = .sequence (anchored f openStart openEnd items)

/-- The tree is a sequence of items and bracket classes between optional anchors. -/
def IsRow (f : Flags) (tree : Tree) : Prop :=
  ∃ openStart openEnd parts, (∀ t ∈ parts, IsPart f t) ∧
    tree = .sequence (anchored f openStart openEnd parts)

theorem IsPart.parts_eq {t : Tree} (h : IsPart f t) : t.parts = [t] := by
  rcases h with ⟨w, h⟩ | ⟨negated, inside, rfl⟩
  · cases h <;> rfl
  · rfl

theorem exists_item_of_mem {ws : List (List Char)} {items : List Tree}
    (h : List.Forall₂ (Item f) ws items) : ∀ t ∈ items, ∃ w, Item f w t := by
  induction h with
  | nil => nofun
  | cons ht _ ih => exact List.forall_mem_cons.mpr ⟨⟨_, ht⟩, ih⟩

/-- **A class that is not just a character keeps an expression from being expressible.** -/
theorem not_expressible_of_class {negated : Bool} {inside : Regex.ClassTree}
    (hmem : .leaf f (.bracket negated inside) ∈ tree.parts) (hinside : ∀ c, inside ≠ .literal c) :
    ¬ Expressible f source tree := by
  rintro ⟨os, oe, ws, items, -, hws, rfl⟩
  have hitem := exists_item_of_mem hws
  rw [parts_anchored fun t ht => IsPart.parts_eq (.inl (hitem t ht))] at hmem
  have hne : ∀ t ∈ anchored f os oe items, t ≠ .leaf f (.bracket negated inside) := by
    refine Regex.forall_mem_anchored nofun nofun fun t ht hclass => ?_
    obtain ⟨w, hw⟩ := hitem t ht
    rw [hclass] at hw
    cases hw
    exact hinside _ rfl
  exact hne _ hmem rfl

/-- **What a row is spelled as is expressible exactly if its brackets are plain.** -/
theorem Row.expressible_iff {os oe : Bool} {body : List Char} {trees : List Tree}
    (h : Row f body trees) (htext : source.toList = anchoredText os oe body) :
    Expressible f source (.sequence (anchored f os oe trees)) ↔ plainBrackets body = true := by
  constructor
  · intro hexpr
    by_contra hplain
    obtain ⟨negated, inside, hmem, hinside⟩ := h.exists_class (Bool.eq_false_iff.mpr hplain)
    have hparts : .leaf f (.bracket negated inside) ∈
        (Tree.sequence (anchored f os oe trees)).parts := by
      rw [parts_anchored fun t ht => (h.isPart t ht).parts_eq]
      simp [anchored, hmem]
    exact not_expressible_of_class hparts hinside hexpr
  · intro hplain
    obtain ⟨ws, rfl, hws⟩ := h.spelled hplain
    exact ⟨os, oe, ws, trees, htext, hws, rfl⟩

/-- **An expression is converted only if it is expressible, but for classes across lines.** What
stays as it is keeps its source. What does not is read as items and bracket classes between
optional anchors, and as items alone exactly if its brackets are plain, as they are wherever no
line ends or no bracket opens. -/
theorem expressible_iff_plainBrackets {p : RegexPattern}
    (hp : RegexPattern.compile source ignoreCase = .ok p) :
    ((convert source ignoreCase).mode = .native → (convert source ignoreCase).source = source) ∧
    ((convert source ignoreCase).mode ≠ .native →
      ∃ tree, Tree.parse { caseInsensitive := ignoreCase } source = .ok tree ∧
        tree.regex = p.matcher ∧ IsRow { caseInsensitive := ignoreCase } tree ∧
        (Expressible { caseInsensitive := ignoreCase } source tree ↔
          plainBrackets (stripAnchors source.toList).body = true) ∧
        ('\n' ∉ source.toList ∨ '[' ∉ source.toList →
          plainBrackets (stripAnchors source.toList).body = true)) := by
  refine ⟨source_eq_of_native, fun hmode => ?_⟩
  obtain ⟨ts, -, h⟩ := exists_converts hmode
  have hf : ({ caseInsensitive := ignoreCase } : Flags).Plain := plain_searchFlags ignoreCase false
  have hr := RegexPattern.matcher_eq hp
  obtain ⟨tree, hparse, hregex⟩ := Regex.exists_parse hr
  obtain ⟨items, hitems, trees, n, -, -, -, -, hrow, htree⟩ := h.readsTo hf hparse
  rw [hitems, ← anchored] at htree
  exact ⟨tree, hparse, hregex, ⟨_, _, trees, hrow.isPart, htree⟩,
    htree ▸ hrow.expressible_iff h.text_eq, h.plainBrackets_eq_true hf hr⟩

/-- One of each kind of item, between an anchor and an open end. -/
theorem expressible_all_items :
    ∃ p tree, RegexPattern.compile "^a\\$[]].*." true = .ok p ∧
      (convert "^a\\$[]].*." true).mode ≠ .native ∧
      Tree.parse { caseInsensitive := true } "^a\\$[]].*." = .ok tree ∧
      tree.regex = p.matcher ∧ Expressible { caseInsensitive := true } "^a\\$[]].*." tree := by
  obtain ⟨r, hr⟩ : ∃ r, Regex.compile { caseInsensitive := true } "^a\\$[]].*." = .ok r := ⟨_, rfl⟩
  obtain ⟨p, hp, -⟩ := RegexPattern.exists_compile hr
  have hmode : (convert "^a\\$[]].*." true).mode ≠ .native := by decide +kernel
  obtain ⟨-, hconverted⟩ := expressible_iff_plainBrackets hp
  obtain ⟨tree, hparse, hregex, -, hexpr, hplain⟩ := hconverted hmode
  exact ⟨p, tree, hp, hmode, hparse, hregex, hexpr.mpr (hplain (.inl (by decide +kernel)))⟩

/-- A negated class of a closing bracket, a line end, a range and a letter passes for `[^]`, two
plain characters and `[x]`. -/
theorem convert_class_across_lines :
    ∃ p tree, RegexPattern.compile "[^]\n!-[x]" false = .ok p ∧
      (convert "[^]\n!-[x]" false).mode ≠ .native ∧ Tree.parse {} "[^]\n!-[x]" = .ok tree ∧
      ¬ Expressible {} "[^]\n!-[x]" tree := by
  obtain ⟨r, hr⟩ : ∃ r, Regex.compile {} "[^]\n!-[x]" = .ok r := ⟨_, rfl⟩
  obtain ⟨p, hp, -⟩ := RegexPattern.exists_compile hr
  have hparse : Tree.parse {} "[^]\n!-[x]" = .ok (.leaf {} (.bracket true (.union (.literal ']')
      (.union (.literal '\n') (.union (.range '!' '[') (.literal 'x')))))) := by decide +kernel
  exact ⟨p, _, hp, by decide +kernel, hparse,
    not_expressible_of_class (List.mem_singleton_self _) nofun⟩

end Downgrade

end RecordFilter
