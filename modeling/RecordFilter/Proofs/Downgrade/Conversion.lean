import RecordFilter.Proofs.Downgrade.Reading
import RecordFilter.Proofs.Like.Literal
import RecordFilter.Proofs.Like.Pattern
import RecordFilter.RegexPattern

/-!
# Proofs/Downgrade/Conversion — what a conversion means

An expression that does not stay as it is becomes the pattern of the tokens of its body, with runs
at the open ends (`exists_converts`). The pattern matches what those tokens match, and if all
brackets are plain the expression finds what the same tokens spell. So with points that stand for
line ends too, both are the same search.
-/

namespace RecordFilter

namespace Downgrade

open Like (Token Spells Found Same tokens render width withOpenEnds)
open Regex (anchoredText Flags)

/-! ## What an expression is converted to -/

/-- The expression has the tokens `ts` between its anchors or open ends and is converted to their
pattern. -/
structure Converts (source : String) (openStart openEnd : Bool) (body : List Char)
    (ts : List Token) : Prop where
  text_eq : source.toList = anchoredText openStart openEnd body
  tokenized : Tokenized body ts
  narrow : Narrow body
  tokens_eq : tokens? source.toList = some (collapse (withOpenEnds openStart openEnd ts))

variable {source : String} {ignoreCase os oe : Bool} {body : List Char} {ts : List Token}

/-- An expression stays as it is if it has no tokens. -/
theorem mode_eq_native_iff {source : String} {ignoreCase : Bool} :
    (convert source ignoreCase).mode = .native ↔ tokens? source.toList = none := by
  rw [convert]
  cases tokens? source.toList with
  | none => exact iff_of_true rfl rfl
  | some tokens =>
    refine iff_of_false ?_ nofun
    simp only
    split <;> exact nofun

/-- A conversion to nothing simpler leaves the source as it is. -/
theorem source_eq_of_native (h : (convert source ignoreCase).mode = .native) :
    (convert source ignoreCase).source = source := by
  unfold convert at h ⊢
  split
  · next tokens htokens =>
    rw [htokens] at h
    simp only at h
    split at h <;> cases h
  · rfl

/-- A part of a text without wide classes has none. -/
theorem narrow_of_not_hasWideClass {pre cs post : List Char}
    (h : hasWideClass (pre ++ cs ++ post) = false) : Narrow cs := by
  rintro a b c rfl hb
  refine newline_mem_of_not_hasWideClass (a := pre ++ a) (c := c ++ post) ?_ hb
  simpa using h

/-- **What does not stay as it is has tokens between its anchors.** -/
theorem exists_converts (h : (convert source ignoreCase).mode ≠ .native) :
    ∃ ts, tokenize (stripAnchors source.toList).body = some ts ∧
      Converts source (stripAnchors source.toList).openStart (stripAnchors source.toList).openEnd
        (stripAnchors source.toList).body ts := by
  obtain ⟨toks, htoks⟩ : ∃ toks, tokens? source.toList = some toks := by
    cases htoks : tokens? source.toList with
    | none => exact absurd (by simp [convert, htoks]) h
    | some toks => exact ⟨toks, rfl⟩
  have hunfold := htoks
  rw [tokens?] at hunfold
  split at hunfold
  · cases hunfold
  next hscan =>
  simp only [Bool.or_eq_true, not_or, Bool.not_eq_true] at hscan
  obtain ⟨ts, hts, rfl⟩ := Option.map_eq_some_iff.mp hunfold
  have htext := anchoredText_stripAnchors source.toList
  refine ⟨ts, hts, htext.symm, tokenized_of_tokenize hts, ?_, htoks⟩
  exact narrow_of_not_hasWideClass (htext ▸ hscan.2)

/-- **The pattern is written from the tokens**, with a run at each open end and one run in place of
several. -/
theorem Converts.source_eq (h : Converts source os oe body ts) (ignoreCase : Bool) :
    (convert source ignoreCase).source.toList = render (collapse (withOpenEnds os oe ts)) := by
  simp [convert, h.tokens_eq]

theorem Converts.caseSensitive_eq (h : Converts source os oe body ts) (ignoreCase : Bool) :
    (convert source ignoreCase).caseSensitive = !ignoreCase := by
  simp [convert, h.tokens_eq]

/-- The mode is equality exactly if no wildcard is left. -/
theorem Converts.mode_eq_equals_iff (h : Converts source os oe body ts) :
    (convert source ignoreCase).mode = .equals ↔
      ∀ tok ∈ collapse (withOpenEnds os oe ts), tok.isLiteral = true := by
  rw [← List.all_eq_true]
  simp only [convert, h.tokens_eq]
  split <;> simp_all

/-- **The pattern matches wherever the tokens match, between the ends that are not open.** -/
theorem Converts.exists_like (h : Converts source os oe body ts) (ignoreCase : Bool) :
    ∃ q, LikePattern.compile (convert source ignoreCase).source
        (!(convert source ignoreCase).caseSensitive) = .ok q ∧
      ∀ t, q.isMatch t = true ↔ Found os oe (Like.Matches (Same ignoreCase) ts) t.toList := by
  obtain ⟨q, hq, -, -, hmatch⟩ := LikePattern.exists_compile (convert source ignoreCase).source
    (!(convert source ignoreCase).caseSensitive)
  refine ⟨q, hq, fun t => (hmatch t).trans ?_⟩
  simp [h.caseSensitive_eq, h.source_eq, Like.matches_withOpenEnds_iff]

/-- **If all brackets are plain, the expression finds what the tokens spell.** -/
theorem Converts.exists_regex (h : Converts source os oe body ts) {f : Flags} (hf : f.Plain)
    (hplain : plainBrackets body = true) :
    ∃ r, Regex.compile f source = .ok r ∧ r.Ordered ∧
      ∀ t, r.Finds t ↔ Found os oe (Spells f.same f.wild ts) t :=
  Regex.compile_of_readsAs hf h.text_eq (readsAs_of_tokenized hf h.tokenized hplain)

/-- **Whatever brackets there are, the parser reads a row of parts between the anchors.** An opening
anchor, if there is one, is read before the body. -/
theorem Converts.readsTo (h : Converts source os oe body ts) {f : Flags} (hf : f.Plain)
    {tree : Regex.Tree} (hparse : Regex.Tree.parse f source = .ok tree) :
    ∃ items, items.reverse = (if os then [] else [.leaf f .caret]) ∧
      ReadsTo f oe items body ts tree := by
  have hrun : Regex.State.run source.toList.length (Regex.State.reading f [])
      (anchoredText os oe body) = .ok tree := h.text_eq ▸ hparse
  have hfuel : (anchoredText os oe body).length ≤ source.toList.length := by rw [h.text_eq]
  have hbody : ReadsOn f oe body ts tree := readsOn_of_tokenized hf h.tokenized h.narrow
  cases os with
  | true => exact ⟨[], rfl, hbody [] _ hfuel hrun⟩
  | false =>
    obtain ⟨fuel, hfuel, hrun⟩ :=
      exists_run_of_adds (w := ['^']) (Regex.State.adds_caret hf _) hfuel hrun
    exact ⟨[.leaf f .caret], rfl, hbody _ fuel hfuel hrun⟩

/-- **Whatever brackets there are, the expression is a row of characters and runs between its
anchors.** There are no more characters than the tokens have, and fewer if some brackets are not
plain; there are runs only where the tokens have some. -/
theorem Converts.exists_spans (h : Converts source os oe body ts) {f : Flags} (hf : f.Plain)
    {r : Regex} (hr : Regex.compile f source = .ok r) :
    ∃ trees n, Spans trees n ∧ n ≤ width ts ∧ (.anyRun ∉ ts → trees.length = n) ∧
      (plainBrackets body = false → n < width ts ∧ '\n' ∈ body) ∧
      r = (Regex.Tree.sequence (Regex.anchored f os oe trees)).regex := by
  obtain ⟨tree, hparse, rfl⟩ := Regex.exists_parse hr
  obtain ⟨items, hitems, trees, n, hspans, hn, hruns, hplain, -, rfl⟩ := h.readsTo hf hparse
  rw [hitems]
  exact ⟨trees, n, hspans, hn, hruns, hplain, rfl⟩

/-- Without a line end or an opening bracket, all brackets are plain. -/
theorem Converts.plainBrackets_eq_true (h : Converts source os oe body ts) {f : Flags}
    (hf : f.Plain) {r : Regex} (hr : Regex.compile f source = .ok r)
    (hline : '\n' ∉ source.toList ∨ '[' ∉ source.toList) : plainBrackets body = true := by
  have hmem : ∀ {c : Char}, c ∈ body → c ∈ source.toList := fun hc => by
    simp only [h.text_eq, anchoredText, List.mem_append]
    exact .inl (.inr hc)
  by_contra hplain
  rw [Bool.not_eq_true] at hplain
  rcases hline with hline | hline
  · obtain ⟨_, _, _, _, _, hmore, _⟩ := h.exists_spans hf hr
    exact hline (hmem (hmore hplain).2)
  · rw [plainBrackets_of_not_mem fun hc => hline (hmem hc)] at hplain
    cases hplain

end Downgrade

namespace RegexPattern

variable {source : String} {ignoreCase : Bool} {p : RegexPattern}

theorem matcher_eq (h : compile source ignoreCase = .ok p) :
    Regex.compile { caseInsensitive := ignoreCase } source = .ok p.matcher := by
  unfold compile at h
  split at h
  · next r hr =>
    cases h
    exact hr
  · cases h

theorem exists_compile {r : Regex}
    (h : Regex.compile { caseInsensitive := ignoreCase } source = .ok r) :
    ∃ p, compile source ignoreCase = .ok p ∧ p.matcher = r := by
  unfold compile
  split
  · next r' hr' => exact ⟨_, rfl, Except.ok.inj (hr'.symm.trans h)⟩
  · next e he => cases he.symm.trans h

end RegexPattern

namespace Downgrade

open Like (Token Spells Found Same)

/-- The flags of a search in which a point stands for line ends, or not. -/
def searchFlags (ignoreCase dotAll : Bool) : Regex.Flags :=
  { caseInsensitive := ignoreCase, dotAll := dotAll }

variable {source : String} {ignoreCase os oe : Bool} {body : List Char} {ts : List Token}

theorem plain_searchFlags (ignoreCase dotAll : Bool) : (searchFlags ignoreCase dotAll).Plain :=
  ⟨rfl, rfl, rfl, rfl⟩

/-- A search with these flags ignores case as a pattern does. -/
@[simp] theorem same_searchFlags (ignoreCase dotAll : Bool) :
    (searchFlags ignoreCase dotAll).same = Same ignoreCase :=
  funext₂ fun c d => propext (Regex.same_iff rfl c d)

@[simp] theorem wild_searchFlags (ignoreCase dotAll : Bool) (d : Char) :
    (searchFlags ignoreCase dotAll).wild d ↔ dotAll = false → d ≠ '\n' :=
  Regex.wild_iff rfl d

/-- **With plain brackets, the expression itself finds what its tokens spell**, with wildcards for
all but line ends. -/
theorem Converts.isMatch_iff (h : Converts source os oe body ts) {p : RegexPattern}
    (hp : RegexPattern.compile source ignoreCase = .ok p) (hplain : plainBrackets body = true)
    (t : String) :
    p.isMatch t = true ↔ Found os oe (Spells (Same ignoreCase) (· ≠ '\n') ts) t.toList := by
  obtain ⟨r, hr, hord, hfinds⟩ := h.exists_regex (plain_searchFlags ignoreCase false) hplain
  obtain rfl : r = p.matcher := Except.ok.inj (hr.symm.trans (RegexPattern.matcher_eq hp))
  have hwild : (searchFlags ignoreCase false).wild = (· ≠ '\n') :=
    funext fun d => propext (by simp)
  refine (Regex.isMatch_eq_true_iff hord t).trans ((hfinds t.toList).trans ?_)
  rw [same_searchFlags, hwild]

/-- **With plain brackets, the pattern matches what a search finds whose points stand for line ends
too.** -/
theorem Converts.exists_dotAll_search (h : Converts source os oe body ts)
    (hplain : plainBrackets body = true) (ignoreCase : Bool) :
    ∃ r, Regex.compile (searchFlags ignoreCase true) source = .ok r ∧
      ∀ t, (r.isMatch t = true ↔ r.Finds t.toList) ∧
        (r.Finds t.toList ↔ Found os oe (Like.Matches (Same ignoreCase) ts) t.toList) := by
  obtain ⟨r, hr, hord, hfinds⟩ := h.exists_regex (plain_searchFlags ignoreCase true) hplain
  have hwild : (searchFlags ignoreCase true).wild = fun _ => True :=
    funext fun d => propext (by simp)
  refine ⟨r, hr, fun t => ⟨Regex.isMatch_eq_true_iff hord t, (hfinds t.toList).trans ?_⟩⟩
  rw [same_searchFlags, hwild]
  exact Like.found_congr fun s => Like.spells_true_iff

/-- An expression that becomes an equality has anchors at both ends and plain characters alone
between them. -/
theorem Converts.closed_of_equals (h : Converts source os oe body ts)
    (hmode : (convert source ignoreCase).mode = .equals) :
    os = false ∧ oe = false ∧ ∀ tok ∈ ts, tok.isLiteral = true := by
  have hlit : ∀ tok ∈ Like.withOpenEnds os oe ts, tok.isLiteral = true := fun tok htok =>
    h.mode_eq_equals_iff.mp hmode tok ((Like.mem_collapse_iff _).mpr htok)
  refine ⟨?_, ?_, fun tok htok => hlit tok (by simp [Like.withOpenEnds, htok])⟩
  · cases os with
    | false => rfl
    | true => exact absurd (hlit .anyRun (by simp [Like.withOpenEnds])) (by decide)
  · cases oe with
    | false => rfl
    | true => exact absurd (hlit .anyRun (by simp [Like.withOpenEnds])) (by decide)

/-- **An equality is with the literal of the conversion.** -/
theorem Converts.found_iff_eq_literal (h : Converts source os oe body ts)
    (hmode : (convert source ignoreCase).mode = .equals) (wild : Char → Prop) (t : String) :
    Found os oe (Spells Eq wild ts) t.toList ↔ t = (convert source ignoreCase).literal := by
  obtain ⟨rfl, rfl, hts⟩ := h.closed_of_equals hmode
  obtain ⟨s, rfl⟩ := Like.exists_eq_map_literal hts
  have hliteral : (convert source ignoreCase).literal.toList = s := by
    simp [Conversion.literal, Like.unescape, h.source_eq]
  simp [← hliteral, String.toList_inj]

/-! ## The meaning of a conversion -/

/-- **A conversion means an unanchored search whose points stand for line ends too.** For an
equality that does not ignore case, this is being equal to its literal, in the pattern and in the
expression. -/
theorem convert_matches_search {p : RegexPattern}
    (hp : RegexPattern.compile source ignoreCase = .ok p)
    (hline : '\n' ∉ source.toList ∨ '[' ∉ source.toList)
    (hmode : (convert source ignoreCase).mode ≠ .native) :
    ∃ q r, LikePattern.compile (convert source ignoreCase).source
        (!(convert source ignoreCase).caseSensitive) = .ok q ∧
      Regex.compile { caseInsensitive := ignoreCase, dotAll := true } source = .ok r ∧
      (∀ t, q.isMatch t = r.isMatch t ∧ (r.isMatch t = true ↔ r.Finds t.toList)) ∧
      ((convert source ignoreCase).mode = .equals → ignoreCase = false → ∀ t,
        (q.isMatch t = true ↔ t = (convert source ignoreCase).literal) ∧
        (p.isMatch t = true ↔ t = (convert source ignoreCase).literal)) := by
  obtain ⟨ts, -, h⟩ := exists_converts hmode
  have hplain := h.plainBrackets_eq_true (plain_searchFlags ignoreCase false)
    (RegexPattern.matcher_eq hp) hline
  obtain ⟨q, hq, hqmatch⟩ := h.exists_like ignoreCase
  obtain ⟨r, hr, hrmatch⟩ := h.exists_dotAll_search hplain ignoreCase
  refine ⟨q, r, hq, hr, fun t => ⟨?_, (hrmatch t).1⟩, fun hequals hcase t => ?_⟩
  · rw [Bool.eq_iff_iff, hqmatch t, (hrmatch t).1, (hrmatch t).2]
  · have hsame : Same ignoreCase = Eq := by
      subst hcase
      rfl
    rw [hqmatch t, h.isMatch_iff hp hplain t, hsame, h.found_iff_eq_literal hequals,
      ← h.found_iff_eq_literal hequals fun _ => True,
      Like.found_congr fun s => Like.spells_true_iff]
    exact ⟨Iff.rfl, Iff.rfl⟩

/-- Brackets around a closing bracket, and escapes of a dollar sign and a point. -/
theorem convert_matches_search_bracket :
    ∃ p, RegexPattern.compile "^[]]\\$\\.$" false = .ok p ∧
      (convert "^[]]\\$\\.$" false).mode = .equals ∧
      ∀ t, p.isMatch t = true ↔ t = (convert "^[]]\\$\\.$" false).literal := by
  obtain ⟨r, hr⟩ : ∃ r, Regex.compile { caseInsensitive := false } "^[]]\\$\\.$" = .ok r :=
    ⟨_, rfl⟩
  obtain ⟨p, hp, -⟩ := RegexPattern.exists_compile hr
  have hmode : (convert "^[]]\\$\\.$" false).mode = .equals := by decide +kernel
  obtain ⟨_, _, _, _, _, hequals⟩ :=
    convert_matches_search hp (.inl (by decide +kernel)) (by rw [hmode]; decide)
  exact ⟨p, hp, hmode, fun t => (hequals hmode rfl t).2⟩

end Downgrade

end RecordFilter
