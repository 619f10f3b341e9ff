import RecordFilter.Regex.Basic

/-!
# Regex/Tree — regular expressions as they are written

A tree keeps what the text of an expression says: literals apart from classes of one character, `.`
apart from the class it stands for, greedy apart from lazy. Each leaf carries the flags in force
where it stands, so `Tree.regex`, the meaning of a tree, needs nothing else.
-/

namespace RecordFilter.Regex

/-- What may stand between two parts of a bracket class. -/
inductive SetOp
  | inter
  | diff
  | symmDiff
deriving DecidableEq

/-- What the sign between two classes means. -/
def SetOp.apply : SetOp → CharClass → CharClass → CharClass
  | inter => .inter
  | diff => .diff
  | symmDiff => .symmDiff

/-- The inside of a bracket class. -/
inductive ClassTree
  | empty
  | literal (c : Char)
  | range (low high : Char)
  /-- A class called by its name, such as `[:alpha:]` or `\pL`. -/
  | named (s : CharClass) (negated : Bool)
  | shorthand (k : CharClass.Shorthand) (negated : Bool)
  | bracket (negated : Bool) (inside : ClassTree)
  | union (s t : ClassTree)
  | op (o : SetOp) (s t : ClassTree)
deriving DecidableEq

namespace ClassTree

def sequence : List ClassTree → ClassTree
  | [] => empty
  | [s] => s
  | s :: rest => union s (sequence rest)

/-- The class with all its case variants, if letters match them. -/
def foldIf (f : Flags) (s : CharClass) : CharClass :=
  if f.caseInsensitive then .folded f.alphabet s else s

/-- Turns a class round if it is negated. Case variants are added before, so a negated class has
none of them. -/
def complIf (negated : Bool) (s : CharClass) : CharClass := if negated then .compl s else s

/-- The characters of the class. Case variants are added before a class is negated or combined. -/
def chars (f : Flags) : ClassTree → CharClass
  | empty => .empty
  | literal c => .single c
  | range low high => .range low high
  | named s negated => complIf negated (foldIf f s)
  | shorthand k negated => complIf negated (k.chars f.alphabet)
  | bracket negated inside => complIf negated (foldIf f (inside.chars f))
  | union s t => .union (s.chars f) (t.chars f)
  | op o s t => o.apply (foldIf f (s.chars f)) (foldIf f (t.chars f))

def isUnion : ClassTree → Bool
  | union _ _ => true
  | _ => false

/-- How deeply constructs are nested; all parts of a union count as one level. -/
def height : ClassTree → Nat
  | bracket _ inside => inside.height + 1
  | union s t => max (s.height + 1) (if t.isUnion then t.height else t.height + 1)
  | op _ s t => max s.height t.height + 1
  | _ => 0

end ClassTree

/-- What matches one character or one place. -/
inductive Leaf
  | literal (c : Char)
  | dot
  | caret
  | dollar
  | assertion (a : Assertion)
  | named (s : CharClass) (negated : Bool)
  | shorthand (k : CharClass.Shorthand) (negated : Bool)
  | bracket (negated : Bool) (inside : ClassTree)
deriving DecidableEq

namespace Leaf

open ClassTree (foldIf complIf)

/-- The characters that `.` leaves out. -/
def lineEnds (f : Flags) : CharClass :=
  if f.dotAll then .empty
  else if f.crlf then .ofList ['\r', '\n']
  else .single '\n'

/-- What a leaf means under the flags in force where it stands. -/
def regex (f : Flags) : Leaf → Regex
  | literal c => .chars (foldIf f (.single c))
  | dot => .chars (.compl (lineEnds f))
  | caret =>
    .look (if f.multiLine then if f.crlf then .startLineCrlf else .startLine else .startText)
  | dollar => .look (if f.multiLine then if f.crlf then .endLineCrlf else .endLine else .endText)
  | assertion a => .look a
  | named s negated => .chars (complIf negated (foldIf f s))
  | shorthand k negated => .chars (complIf negated (k.chars f.alphabet))
  | bracket negated inside => .chars (complIf negated (foldIf f (inside.chars f)))

/-- How deep the brackets of a leaf are nested. -/
def height : Leaf → Nat
  | bracket _ inside => inside.height + 1
  | _ => 0

end Leaf

/-- A regular expression as it is written. -/
inductive Tree
  /-- An empty branch, or a change of flags. -/
  | empty
  | leaf (f : Flags) (l : Leaf)
  | group (r : Tree)
  | rep (r : Tree) (min : Nat) (max? : Option Nat) (greedy : Bool)
  | cat (r s : Tree)
  | alt (r s : Tree)
deriving DecidableEq

namespace Tree

def sequence : List Tree → Tree
  | [] => empty
  | [r] => r
  | r :: rest => cat r (sequence rest)

/-- The alternatives of a group, of which there is at least one. -/
def choice : List Tree → Tree
  | [] => empty
  | [r] => r
  | r :: rest => alt r (choice rest)

/-- What the expression matches. Whether a repetition is greedy decides only which match is found
first, not whether there is one. -/
def regex : Tree → Regex
  | empty => .empty
  | leaf f l => l.regex f
  | group r => r.regex
  | rep r min max? _ => .rep r.regex min max?
  | cat r s => .cat r.regex s.regex
  | alt r s => .alt r.regex s.regex

/-- Whether the tree is a row; a row in a row adds nothing to the height. -/
def isCat : Tree → Bool
  | cat _ _ => true
  | _ => false

def isAlt : Tree → Bool
  | alt _ _ => true
  | _ => false

/-- How deeply constructs are nested; a sequence counts as one level, and so do alternatives. -/
def height : Tree → Nat
  | empty => 0
  | leaf _ l => l.height
  | group r => r.height + 1
  | rep r _ _ _ => r.height + 1
  | cat r s => max (r.height + 1) (if s.isCat then s.height else s.height + 1)
  | alt r s => max (r.height + 1) (if s.isAlt then s.height else s.height + 1)

end Tree

end RecordFilter.Regex
