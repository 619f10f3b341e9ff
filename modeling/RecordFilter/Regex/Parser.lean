import RecordFilter.Regex.Reader
import RecordFilter.Text.Property

/-!
# Regex/Parser — from the text of an expression to its tree

The text is read from left to right. `Level` holds what has been read of one group, `State` the open
groups around it; `State.step` takes one construct off the text, and `Tree.parse` takes steps until
the text ends. `Regex.compile` adds the limit on nesting and keeps what the tree means.
-/

namespace RecordFilter.Regex

/-- What has been read of one group. -/
structure Level where
  /-- The items of the current alternative, last first. -/
  items : List Tree := []
  /-- The finished alternatives, last first. -/
  finished : List Tree := []

namespace Level

/-- Puts an item behind those of the current alternative. -/
def add (l : Level) (r : Tree) : Level := { l with items := r :: l.items }

/-- The current alternative as a tree. -/
def branch (l : Level) : Tree := .sequence l.items.reverse

/-- A bar closes the current alternative. -/
def alternate (l : Level) : Level := ⟨[], l.branch :: l.finished⟩

/-- The whole group as a tree, when its end is reached. -/
def tree (l : Level) : Tree := .choice (l.branch :: l.finished).reverse

end Level

/-- Where the reading of an expression stands. -/
structure State where
  /-- The flags in force; they last to the end of the group. -/
  flags : Flags
  level : Level
  /-- The levels around the current group, innermost first, with the flags before it. -/
  outer : List (Level × Flags)
  /-- The group names used so far. -/
  names : List (List Char)

/-- A change of flags: what ends it, and the flags after it. -/
structure FlagChange where
  flags : Flags
  /-- Whether it opens a group, ending with a colon. -/
  opensGroup : Bool
  rest : List Char

namespace State

open Reader (skip)

/-- The state before the first character. -/
def start (f : Flags) : State := ⟨f, {}, [], []⟩

def add (st : State) (r : Tree) : State := { st with level := st.level.add r }

def addLeaf (st : State) (l : Leaf) : State := st.add (.leaf st.flags l)

/-! ## Groups -/

def openGroup (st : State) (f : Flags) : State :=
  { st with flags := f, level := {}, outer := (st.level, st.flags) :: st.outer }

def closeGroup (st : State) : Except Fault State :=
  match st.outer with
  | [] => .error .unopenedGroup
  | (l, f) :: outer => .ok { st with flags := f, level := l.add (.group st.level.tree), outer }

/-- Reads flags after `(?`. No flag comes twice and only one hyphen, which is not the last; `seen`
are the flags so far, `hyphen` tells whether a hyphen was among them and `dangling` whether it came
last. -/
def readFlags (f : Flags) (seen : List Char) (hyphen dangling : Bool) :
    List Char → Except Fault FlagChange
  | [] => .error .badFlags
  | c :: rest =>
    if c = ':' then
      if dangling then .error .badFlags else .ok ⟨f, true, rest⟩
    else if c = ')' then
      if dangling then .error .badFlags
      else if seen.isEmpty then .error .nothingToRepeat
      else .ok ⟨f, false, rest⟩
    else if c = '-' then
      if hyphen then .error .badFlags else readFlags f seen true true rest
    else if seen.contains c then .error .badFlags
    else
      match f.set? (!hyphen) c with
      | some f => readFlags f (c :: seen) hyphen false rest
      | none => .error .badFlags

def isNameStart (c : Char) : Bool := c = '_' || Text.Property.alphabetic.contains c

def isNameChar (c : Char) : Bool :=
  isNameStart c || Text.Property.numeric.contains c || c = '.' || c = '[' || c = ']'

/-- Reads a group name up to `>`. -/
def readName (names : List (List Char)) (cs : List Char) : Except Fault (List Char × List Char) :=
  match cs.span isNameChar with
  | (c :: name, '>' :: rest) =>
    if !isNameStart c then .error .badGroupName
    else if names.contains (c :: name) then .error .duplicateGroupName
    else .ok (c :: name, rest)
  | _ => .error .badGroupName

def openNamed (st : State) (cs : List Char) : Except Fault (State × List Char) := do
  let (name, rest) ← readName st.names cs
  return ({ st.openGroup st.flags with names := name :: st.names }, rest)

/-- What follows an opening parenthesis: a group, named or not, with or without a change of flags,
or a change of flags alone. -/
def afterParenthesis (st : State) (cs : List Char) : Except Fault (State × List Char) :=
  match skip st.flags cs with
  | '?' :: '=' :: _ | '?' :: '!' :: _ | '?' :: '<' :: '=' :: _ | '?' :: '<' :: '!' :: _ =>
    .error .lookAround
  | '?' :: 'P' :: '<' :: rest | '?' :: '<' :: rest => st.openNamed rest
  | '?' :: rest => do
    let change ← readFlags st.flags [] false false rest
    if change.opensGroup then return (st.openGroup change.flags, change.rest)
    else return ({ st.add .empty with flags := change.flags }, change.rest)
  | rest => .ok (st.openGroup st.flags, rest)

/-! ## Repetitions -/

/-- Whether a `?` that changes greed follows, and the rest. -/
def takeLazy : List Char → Bool × List Char
  | '?' :: rest => (true, rest)
  | rest => (false, rest)

/-- Repeats the item read last. -/
def addRepeat (st : State) (min : Nat) (max? : Option Nat) (cs : List Char) :
    Except Fault (State × List Char) :=
  match st.level.items with
  | [] | .empty :: _ => .error .nothingToRepeat
  | r :: items =>
    let (isLazy, rest) := takeLazy cs
    let greedy := isLazy == st.flags.swapGreed
    .ok ({ st with level := { st.level with items := .rep r min max? greedy :: items } }, rest)

/-! ## One construct -/

/-- Takes one construct, which starts with `c`, off the text. -/
def step (st : State) (c : Char) (cs : List Char) : Except Fault (State × List Char) :=
  if st.flags.freeSpacing && (Reader.isBlank c || c = '#') then .ok (st, skip st.flags (c :: cs))
  else match c with
  | '(' => st.afterParenthesis cs
  | ')' => do return (← st.closeGroup, cs)
  | '|' => .ok ({ st with level := st.level.alternate }, cs)
  | '?' => st.addRepeat 0 (some 1) cs
  | '*' => st.addRepeat 0 none cs
  | '+' => st.addRepeat 1 none cs
  | '{' => do
    let ((min, max?), rest) ← Reader.bounds st.flags cs
    st.addRepeat min max? (skip st.flags rest)
  | '[' => do
    let (l, rest) ← Reader.bracketClass st.flags cs
    return (st.addLeaf l, rest)
  | '\\' => do
    let (l, rest) ← Reader.escape st.flags cs
    return (st.addLeaf l, rest)
  | '.' => if st.flags.unicode then .ok (st.addLeaf .dot, cs) else .error .needsUnicode
  | '^' => .ok (st.addLeaf .caret, cs)
  | '$' => .ok (st.addLeaf .dollar, cs)
  | c => .ok (st.addLeaf (.literal c), cs)

/-- The tree, once the text has ended. -/
def finish (st : State) : Except Fault Tree :=
  match st.outer with
  | [] => .ok st.level.tree
  | _ :: _ => .error .unclosedGroup

/-- Takes constructs off the text until it ends. Each takes a character at least, so the length of
the text is enough `fuel`. -/
def run : Nat → State → List Char → Except Fault Tree
  | _, st, [] => st.finish
  | 0, _, _ :: _ => .error .unclosedGroup
  | fuel + 1, st, c :: cs => do
    let (st, rest) ← st.step c cs
    run fuel st rest

end State

/-- The tree of the expression written in a text. -/
def Tree.parse (f : Flags) (source : String) : Except Fault Tree :=
  let cs := source.toList
  State.run cs.length (.start f) cs

/-- How deeply the constructs of an expression may be nested. -/
def nestingLimit : Nat := 250

/-- The expression written in a text. -/
def compile (f : Flags) (source : String) : Except Fault Regex := do
  let tree ← Tree.parse f source
  if tree.height ≤ nestingLimit then return tree.regex else .error .nestedTooDeep

end RecordFilter.Regex
