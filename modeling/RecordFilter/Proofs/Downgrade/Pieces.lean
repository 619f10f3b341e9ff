import RecordFilter.Proofs.Downgrade.Escaped

/-!
# Proofs/Downgrade/Pieces — where the tokenizer cuts a text, and which dollar is an anchor

The tokenizer reads a text from its start, piece by piece (`tokenize_eq_mapM`). Whether a dollar at
the end is an anchor is told from the end, by the backslashes before it. Both agree, since a run of
backslashes starts with a piece, or with the character of a class (`dollarBehind`): what is stripped
from an expression are whole pieces (`pieces_stripAnchors`).
-/

namespace RecordFilter.Downgrade

open Like (Token)

variable {c : Char} {cs rest : List Char} {ts : List Token}

/-- A text cut where the tokenizer cuts it: into classes of one character, escapes, `.*`, and single
characters everywhere else. -/
def pieces : List Char → List (List Char)
  | [] => []
  | '[' :: c :: ']' :: rest => ['[', c, ']'] :: pieces rest
  | '\\' :: c :: rest => ['\\', c] :: pieces rest
  | '.' :: '*' :: rest => ['.', '*'] :: pieces rest
  | c :: rest => [c] :: pieces rest

/-- The token that a piece spells. -/
def spelled? : List Char → Option Token
  | [c] =>
    if c = '.' then some .anyChar
    else if isOperator c then none
    else some (.literal c)
  | [b, c] =>
    if b = '\\' then (if isEscapedLiteral c then some (.literal c) else none)
    else if b = '.' ∧ c = '*' then some .anyRun
    else none
  | [b, c, d] => if b = '[' ∧ d = ']' ∧ c ≠ '\n' then some (.literal c) else none
  | _ => none

@[simp] theorem flatten_pieces (cs : List Char) : (pieces cs).flatten = cs := by
  induction cs using pieces.induct with
  | case1 => rfl
  | case2 c rest ih =>
    rw [pieces, List.flatten_cons, ih]
    rfl
  | case3 c rest ih =>
    rw [pieces, List.flatten_cons, ih]
    rfl
  | case4 rest ih =>
    rw [pieces, List.flatten_cons, ih]
    rfl
  | case5 c rest hbracket hescape hstar ih =>
    rw [pieces.eq_5 c rest hbracket hescape hstar, List.flatten_cons, ih]
    rfl

theorem mapM_spelled?_cons (p : List Char) (ps : List (List Char)) :
    (p :: ps).mapM spelled? = (spelled? p).bind fun t => (ps.mapM spelled?).map (t :: ·) := by
  rw [List.mapM_cons]
  rcases spelled? p with _ | t
  · rfl
  · rcases ps.mapM spelled? with _ | ts <;> rfl

/-- **The tokenizer cuts the text into pieces and reads each of them.** -/
theorem tokenize_eq_mapM (cs : List Char) : tokenize cs = (pieces cs).mapM spelled? := by
  induction cs using pieces.induct with
  | case1 => rfl
  | case2 c rest ih =>
    rw [tokenize, ih, pieces, mapM_spelled?_cons, spelled?]
    by_cases hc : c = '\n'
    · rw [if_pos hc, if_neg fun h => h.2.2 hc, Option.bind_none]
    · rw [if_neg hc, if_pos ⟨rfl, rfl, hc⟩, Option.bind_some]
  | case3 c rest ih =>
    rw [tokenize, ih, pieces, mapM_spelled?_cons, spelled?, if_pos rfl]
    split
    · rw [Option.bind_some]
    · rw [Option.bind_none]
  | case4 rest ih =>
    rw [tokenize, ih, pieces, mapM_spelled?_cons, spelled?, if_neg (by decide), if_pos ⟨rfl, rfl⟩,
      Option.bind_some]
  | case5 c rest hbracket hescape hstar ih =>
    rw [pieces.eq_5 c rest hbracket hescape hstar, mapM_spelled?_cons, ← ih]
    by_cases hdot : c = '.'
    · subst hdot
      rw [tokenize.eq_5 rest fun rest' => hstar rest' rfl, spelled?, if_pos rfl, Option.bind_some]
    · rw [tokenize.eq_6 c rest hbracket hescape hstar hdot, spelled?, if_neg hdot]
      split
      · rw [Option.bind_none]
      · rw [Option.bind_some]

/-- A dollar behind the text is a piece of its own, unless the text ends in an open escape: then
that is the last piece of the text, and the dollar completes it. -/
inductive DollarBehind (cs : List Char) : Prop
  | alone (hclosed : endsWithEscape cs = false) (h : pieces (cs ++ ['$']) = pieces cs ++ [['$']])
  | escaped (hopen : endsWithEscape cs = true) (before : List (List Char))
      (hlast : pieces cs = before ++ [['\\']]) (h : pieces (cs ++ ['$']) = before ++ [['\\', '$']])

/-- A piece in front changes nothing behind it. -/
theorem DollarBehind.cons {p : List Char} (h : DollarBehind rest) (hp : endsWithEscape p = false)
    (hpieces : pieces (p ++ rest) = p :: pieces rest)
    (hdollar : pieces (p ++ (rest ++ ['$'])) = p :: pieces (rest ++ ['$'])) :
    DollarBehind (p ++ rest) := by
  cases h with
  | alone hclosed h =>
    refine .alone ((endsWithEscape_append hp rest).trans hclosed) ?_
    rw [List.append_assoc, hdollar, h, hpieces, List.cons_append]
  | escaped hopen before hlast h =>
    refine .escaped ((endsWithEscape_append hp rest).trans hopen) (p :: before) ?_ ?_
    · rw [hpieces, hlast, List.cons_append]
    · rw [List.append_assoc, hdollar, h, List.cons_append]

/-- A single character stays one in front of more text, as long as that does not complete a class,
an escape or a run of points. -/
theorem pieces_cons_append_dollar (hc : c ≠ '\\')
    (hbracket : ∀ d rest', c = '[' → rest = d :: ']' :: rest' → False)
    (hstar : ∀ rest', c = '.' → rest = '*' :: rest' → False) :
    pieces (c :: (rest ++ ['$'])) = [c] :: pieces (rest ++ ['$']) := by
  refine pieces.eq_5 _ _ (fun d rest' hc' heq => ?_) (fun _ _ hc' _ => hc hc')
    fun rest' hc' heq => ?_
  · rcases rest with _ | ⟨x, _ | ⟨y, rest⟩⟩
    · simp at heq
    · simp at heq
    · simp only [List.cons_append, List.cons.injEq] at heq
      exact hbracket x rest hc' (by rw [heq.2.1])
  · rcases rest with _ | ⟨x, rest⟩
    · simp at heq
    · simp only [List.cons_append, List.cons.injEq] at heq
      exact hstar rest hc' (by rw [heq.1])

theorem dollarBehind (cs : List Char) : DollarBehind cs := by
  induction cs using pieces.induct with
  | case1 => exact .alone rfl rfl
  | case2 c rest ih =>
    exact ih.cons (p := ['[', c, ']']) (endsWithEscape_concat ['[', c] ']') (by simp [pieces])
      (by simp [pieces])
  | case3 c rest ih =>
    exact ih.cons (p := ['\\', c]) ((endsWithEscape_concat ['\\'] c).trans (Bool.and_false _))
      (by simp [pieces]) (by simp [pieces])
  | case4 rest ih =>
    exact ih.cons (p := ['.', '*']) rfl (by simp [pieces]) (by simp [pieces])
  | case5 c rest hbracket hescape hstar ih =>
    by_cases hc : c = '\\'
    -- a backslash is a piece of its own at the end of the text only
    · rcases rest with _ | ⟨d, rest⟩
      · subst hc
        exact .escaped rfl [] rfl rfl
      · exact (hescape d rest hc rfl).elim
    · have hclosed : endsWithEscape [c] = false := by
        rw [← List.nil_append [c], endsWithEscape_concat, decide_eq_false hc, Bool.false_and]
      exact ih.cons hclosed (pieces.eq_5 c rest hbracket hescape hstar)
        (pieces_cons_append_dollar hc hbracket hstar)

/-! ## Stripping -/

/-- **A dollar is stripped exactly if it is a piece of its own.** -/
theorem stripEnd_cases (cs : List Char) :
    (stripEnd cs = (cs, true) ∧ (pieces cs).getLast? ≠ some ['$']) ∨
      ∃ body, stripEnd cs = (body, false) ∧ pieces cs = pieces body ++ [['$']] := by
  by_cases h : ∃ body, cs = body ++ ['$'] ∧ endsWithEscape body = false
  · obtain ⟨body, rfl, hclosed⟩ := h
    refine .inr ⟨body, stripEnd_concat hclosed, ?_⟩
    cases dollarBehind body with
    | alone _ h => exact h
    | escaped hopen _ _ _ => rw [hclosed] at hopen; cases hopen
  · have hescaped : ∀ body, cs = body ++ ['$'] → endsWithEscape body = true := fun body hbody =>
      Bool.of_not_eq_false fun hclosed => h ⟨body, hbody, hclosed⟩
    refine .inl ⟨stripEnd_of_escaped hescaped, fun hlast => ?_⟩
    obtain ⟨before, hbefore⟩ := List.getLast?_eq_some_iff.mp hlast
    have hcs : cs = before.flatten ++ ['$'] := by
      rw [← flatten_pieces cs, hbefore, List.flatten_append]
      rfl
    cases dollarBehind before.flatten with
    | alone hclosed _ => rw [hescaped _ hcs] at hclosed; cases hclosed
    | escaped _ _ _ h => rw [← hcs, hbefore] at h; simp at h

@[simp]
theorem pieces_caret_cons (rest : List Char) : pieces ('^' :: rest) = ['^'] :: pieces rest :=
  pieces.eq_5 _ _ nofun nofun nofun

/-- **The pieces of an expression are its anchors and the pieces of its body**: nothing is cut. -/
theorem pieces_stripAnchors (cs : List Char) : pieces cs =
    (if (stripAnchors cs).openStart then [] else [['^']]) ++ pieces (stripAnchors cs).body ++
      if (stripAnchors cs).openEnd then [] else [['$']] := by
  have hend : ∀ rest, pieces rest =
      pieces (stripEnd rest).1 ++ if (stripEnd rest).2 then [] else [['$']] := by
    intro rest
    rcases stripEnd_cases rest with ⟨h, -⟩ | ⟨body, h, hpieces⟩
    · simp [h]
    · simpa [h] using hpieces
  by_cases h : cs.head? = some '^'
  · obtain ⟨rest, rfl⟩ := List.head?_eq_some_iff.mp h
    exact (pieces_caret_cons rest).trans (congrArg (['^'] :: ·) (hend rest))
  · rw [stripAnchors_other h]
    exact hend cs

theorem openEnd_eq_false_iff (cs : List Char) :
    (stripAnchors cs).openEnd = false ↔ (pieces cs).getLast? = some ['$'] := by
  have hend : ∀ rest, (stripEnd rest).2 = false ↔ (pieces rest).getLast? = some ['$'] := by
    intro rest
    rcases stripEnd_cases rest with ⟨h, hlast⟩ | ⟨body, h, hpieces⟩
    · simp [h, hlast]
    · simp [h, hpieces]
  by_cases h : cs.head? = some '^'
  · obtain ⟨rest, rfl⟩ := List.head?_eq_some_iff.mp h
    have hcaret : (['^'] :: pieces rest).getLast? = some ['$'] ↔
        (pieces rest).getLast? = some ['$'] := by
      rcases pieces rest with _ | ⟨p, ps⟩ <;> simp [List.getLast?_cons]
    rw [pieces_caret_cons, hcaret]
    exact hend rest
  · rw [stripAnchors_other h]
    exact hend cs

/-! ## Tokens -/

/-- Behind an open escape, a dollar is read as a plain character. -/
theorem getLast?_of_tokenize_dollar (hopen : endsWithEscape cs = true)
    (h : tokenize (cs ++ ['$']) = some ts) : ts.getLast? = some (.literal '$') := by
  cases dollarBehind cs with
  | alone hclosed _ => rw [hclosed] at hopen; cases hopen
  | escaped _ before _ hpieces =>
    have hlast : [['\\', '$']].mapM spelled? = some [Token.literal '$'] := rfl
    rw [tokenize_eq_mapM, hpieces, List.mapM_append, hlast] at h
    obtain ⟨us, -, h⟩ := Option.bind_eq_some_iff.mp h
    rw [← Option.some.inj h, List.getLast?_concat]

theorem forall_isSome_of_mapM {ps : List (List Char)} (h : ps.mapM spelled? = some ts) :
    ∀ p ∈ ps, (spelled? p).isSome := by
  induction ps generalizing ts with
  | nil => exact nofun
  | cons p ps ih =>
    rw [mapM_spelled?_cons] at h
    obtain ⟨t, hp, h⟩ := Option.bind_eq_some_iff.mp h
    obtain ⟨us, hps, -⟩ := Option.map_eq_some_iff.mp h
    exact List.forall_mem_cons.mpr ⟨Option.isSome_of_eq_some hp, ih hps⟩

/-- In an expression that is downgraded every piece of the body is a token. -/
theorem forall_isSome_of_tokens? (h : (tokens? cs).isSome) :
    ∀ p ∈ pieces (stripAnchors cs).body, (spelled? p).isSome := by
  obtain ⟨ts, hts⟩ := Option.isSome_iff_exists.mp h
  rw [tokens?] at hts
  split at hts
  · cases hts
  · obtain ⟨us, hus, -⟩ := Option.map_eq_some_iff.mp hts
    exact forall_isSome_of_mapM ((tokenize_eq_mapM _).symm.trans hus)

/-- **The scan from the end and the scan from the start agree on a final dollar.** A text with
tokens ends in no open escape, and behind a text that ends in one a dollar is read as a plain
character. The dollar that is stripped off an expression is the one that would be a piece of its own
for the tokenizer; what is stripped are whole pieces, so every class and escape of an expression is
left whole in its body, and spells a token if the expression is downgraded. -/
theorem endsWithEscape_agrees_tokenize (cs : List Char) :
    (∀ ts, tokenize cs = some ts → endsWithEscape cs = false) ∧
    (∀ ts, endsWithEscape cs = true → tokenize (cs ++ ['$']) = some ts →
      ts.getLast? = some (.literal '$')) ∧
    tokenize cs = (pieces cs).mapM spelled? ∧ (pieces cs).flatten = cs ∧
    ((stripAnchors cs).openEnd = false ↔ (pieces cs).getLast? = some ['$']) ∧
    pieces cs = (if (stripAnchors cs).openStart then [] else [['^']]) ++
      pieces (stripAnchors cs).body ++ (if (stripAnchors cs).openEnd then [] else [['$']]) ∧
    ((tokens? cs).isSome → ∀ p ∈ pieces (stripAnchors cs).body, (spelled? p).isSome) :=
  ⟨fun _ h => (tokenized_of_tokenize h).closed.endsWithEscape_eq,
    fun _ => getLast?_of_tokenize_dollar, tokenize_eq_mapM cs, flatten_pieces cs,
    openEnd_eq_false_iff cs, pieces_stripAnchors cs, forall_isSome_of_tokens?⟩

/-- Classes of a backslash, with a dollar, with escapes and with both behind them. -/
theorem endsWithEscape_agrees_tokenize_classes :
    endsWithEscape "[\\]\\\\".toList = false ∧
      (endsWithEscape "[\\]\\\\\\".toList = true ∧
        [Token.literal '\\', .literal '\\', .literal '$'].getLast? = some (.literal '$')) ∧
      ((stripAnchors "^[\\]$".toList).openEnd = false ∧
        ∀ p ∈ pieces (stripAnchors "^[\\]$".toList).body, (spelled? p).isSome) := by
  have hopen : endsWithEscape "[\\]\\\\\\".toList = true := by decide
  have hstrip := endsWithEscape_agrees_tokenize "^[\\]$".toList
  exact ⟨(endsWithEscape_agrees_tokenize _).1 [.literal '\\', .literal '\\'] (by decide),
    ⟨hopen, (endsWithEscape_agrees_tokenize _).2.1 _ hopen (by decide)⟩,
    hstrip.2.2.2.2.1.mpr (by decide), hstrip.2.2.2.2.2.2 (by decide)⟩

end RecordFilter.Downgrade
