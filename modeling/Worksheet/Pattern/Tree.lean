/- Worksheet Pattern Trees — patterns as they are written.

   A tree keeps what the text of a pattern says, before flags are applied: which
   characters a class holds, and what an anchor or a dot means, depends on the
   flags in force where it stands. -/
namespace Worksheet

/-- The flags of a pattern. -/
inductive PatternFlag where
  | ignoreCase
  /-- The anchors also match at line ends. -/
  | multiLine
  /-- The dot also matches line ends. -/
  | dotAll
  /-- Repetitions are lazy, which does not change what matches. -/
  | swapGreed
  | unicode
  /-- Carriage returns end lines too. -/
  | carriageReturn
  /-- Blanks and comments between the parts of a pattern are ignored. -/
  | ignoreBlanks
  deriving DecidableEq, Repr

/-- Flags that are turned on and off together. -/
structure FlagChange where
  turnedOn : List PatternFlag
  turnedOff : List PatternFlag
  deriving Repr

/-- What a flag is turned to, if it is. -/
def FlagChange.state? (c : FlagChange) (f : PatternFlag) : Option Bool :=
  if c.turnedOn.contains f then some true
  else if c.turnedOff.contains f then some false
  else none

/-- Places between characters, as they are written. -/
inductive Anchor where
  | lineStart | lineEnd
  | textStart | textEnd
  | wordBoundary | notWordBoundary
  | wordStart | wordEnd
  /-- No word character before. -/
  | wordStartHalf
  /-- No word character after. -/
  | wordEndHalf
  deriving DecidableEq, Repr

/-- The classes with a letter of their own. -/
inductive LetterClass where
  | digit | space | word
  deriving DecidableEq, Repr

/-- The operations between classes in brackets. -/
inductive ClassOp where
  | intersection | difference | symmetricDifference
  deriving DecidableEq, Repr

/-- A character as it is written: plainly, or as a two-digit hexadecimal escape. -/
structure LiteralChar where
  char : Char
  byteEscape : Bool
  deriving DecidableEq, Repr

/-- The inside of brackets. -/
inductive ClassTree where
  | literal (c : LiteralChar)
  | range (first last : LiteralChar)
  | posix (name : String) (negated : Bool)
  | letter (c : LetterClass) (negated : Bool)
  | property (text : String) (negated : Bool)
  | bracket (negated : Bool) (inside : ClassTree)
  | union (parts : List ClassTree)
  | op (o : ClassOp) (left right : ClassTree)
  deriving Repr

inductive PatternTree where
  /-- Flags for the rest of the group. -/
  | flags (change : FlagChange)
  | literal (c : LiteralChar)
  | dot
  | anchor (a : Anchor)
  | letter (c : LetterClass) (negated : Bool)
  | property (text : String) (negated : Bool)
  | bracket (negated : Bool) (inside : ClassTree)
  | repetition (inner : PatternTree) (least : Nat) (most : Option Nat)
  | group (change : FlagChange) (inner : PatternTree)
  | alternation (branches : List PatternTree)
  | concat (parts : List PatternTree)
  deriving Repr

/-- The tree of parts that stand one after the other. -/
def PatternTree.ofParts : List PatternTree → PatternTree
  | [t] => t
  | ts => .concat ts

/-- The tree of branches. -/
def PatternTree.ofBranches : List PatternTree → PatternTree
  | [t] => t
  | ts => .alternation ts

/-- The tree of items in brackets. -/
def ClassTree.ofItems : List ClassTree → ClassTree
  | [t] => t
  | ts => .union ts

mutual
/-- How deep a class nests. -/
def ClassTree.depth : ClassTree → Nat
  | .bracket _ inside => inside.depth + 1
  | .union parts => ClassTree.depthAll parts + 1
  | .op _ l r => max l.depth r.depth + 1
  | _ => 0

def ClassTree.depthAll : List ClassTree → Nat
  | [] => 0
  | t :: ts => max t.depth (ClassTree.depthAll ts)
end

mutual
/-- How deep a pattern nests. -/
def PatternTree.depth : PatternTree → Nat
  | .bracket _ inside => inside.depth + 1
  | .repetition inner _ _ => inner.depth + 1
  | .group _ inner => inner.depth + 1
  | .alternation branches => PatternTree.depthAll branches + 1
  | .concat [] => 0
  | .concat (t :: ts) => max t.depth (PatternTree.depthAll ts) + 1
  | _ => 0

def PatternTree.depthAll : List PatternTree → Nat
  | [] => 0
  | t :: ts => max t.depth (PatternTree.depthAll ts)
end

end Worksheet
