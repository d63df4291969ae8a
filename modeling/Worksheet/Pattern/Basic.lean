import Worksheet.Pattern.Property
import Worksheet.Pattern.Reader
import Worksheet.Unicode.Blank

/- Worksheet Patterns — regular expressions over characters.

   A pattern is what a pattern tree means once its flags are applied. Without the
   `unicode` flag only ASCII counts, and what could match half of a character is
   refused. -/
namespace Worksheet

/-- A condition on a place between characters. -/
inductive Look where
  | textStart | textEnd
  | lineStart | lineEnd
  /-- Line ends are carriage returns, line feeds, or one followed by the other. -/
  | anyLineStart | anyLineEnd
  /-- A condition on whether the characters before and after belong to words. -/
  | word (holds : Bool → Bool → Bool) (word : CharSet)

/-- A regular expression. -/
inductive Pattern where
  | empty
  | one (s : CharSet)
  | look (l : Look)
  | seq (a b : Pattern)
  | alt (a b : Pattern)
  /-- At least `least` times and at most `most` times. -/
  | repetition (inner : Pattern) (least : Nat) (most : Option Nat)

/-! ## Flags -/

/-- The flags that decide what a tree means. -/
structure PatternFlags where
  ignoreCase : Bool
  multiLine : Bool
  dotAll : Bool
  unicode : Bool
  carriageReturn : Bool

/-- The flags that a pattern starts with. -/
def PatternFlags.initial : PatternFlags := ⟨false, false, false, true, false⟩

/-- The flags after a change. -/
def PatternFlags.change (f : PatternFlags) (c : FlagChange) : PatternFlags :=
  ⟨(c.state? .ignoreCase).getD f.ignoreCase, (c.state? .multiLine).getD f.multiLine,
    (c.state? .dotAll).getD f.dotAll, (c.state? .unicode).getD f.unicode,
    (c.state? .carriageReturn).getD f.carriageReturn⟩

namespace PatternFlags

/-- A set with the case variants of its members, if case is ignored. -/
def fold (f : PatternFlags) (s : CharSet) : CharSet :=
  if !f.ignoreCase then s else if f.unicode then .anyCase s else .anyAsciiCase s

/-- A set that may be negated. Without `unicode` it has to stay within ASCII. -/
def close (f : PatternFlags) (negated : Bool) (s : CharSet) : Option CharSet :=
  let s := f.fold s
  let s := if negated then .compl s else s
  if f.unicode || s.isAscii then some s else none

/-! ## Classes -/

/-- The set of a class with a letter of its own. Its members have their case
variants among them already. -/
def letter (f : PatternFlags) (c : LetterClass) (negated : Bool) : Option CharSet :=
  let s : CharSet := match c, f.unicode with
    | .digit, true => Property.decimalDigits
    | .space, true => .codes Unicode.blanks
    | .word, true => Property.wordCharacters
    | .digit, false => CharSet.asciiDigits
    | .space, false => CharSet.asciiBlanks
    | .word, false => CharSet.asciiWord
  let s := if negated then .compl s else s
  if f.unicode || s.isAscii then some s else none

/-- The set of a class by property. -/
def property (f : PatternFlags) (text : String) (negated : Bool) : Option CharSet := do
  guard f.unicode
  let (s, fails) ← Property.read? text
  f.close (negated != fails) s

/-- The code point of a character in brackets. -/
def classChar (f : PatternFlags) (c : LiteralChar) : Option Nat :=
  if f.unicode || c.char.toNat < 128 then some c.char.toNat else none

mutual
/-- The set that the inside of brackets stands for. -/
def classSet (f : PatternFlags) : ClassTree → Option CharSet
  | .literal c => do
    let n ← f.classChar c
    return .ofRange n n
  | .range a b => do
    return .ofRange (← f.classChar a) (← f.classChar b)
  | .posix name negated => (CharSet.posix? name).bind (f.close negated)
  | .letter c negated => f.letter c negated
  | .property text negated => f.property text negated
  | .bracket negated inside => do
    f.close negated (← classSet f inside)
  | .union parts => classUnion f parts
  | .op o left right => do
    let l := f.fold (← classSet f left)
    let r := f.fold (← classSet f right)
    return match o with
      | .intersection => .inter l r
      | .difference => .diff l r
      | .symmetricDifference => .symmDiff l r

/-- The set of what is in any of some parts. -/
def classUnion (f : PatternFlags) : List ClassTree → Option CharSet
  | [] => some .empty
  | t :: ts => do
    let s ← classSet f t
    let rest ← classUnion f ts
    return .union s rest
end

/-! ## Single parts -/

/-- The set of a character. -/
def literal (f : PatternFlags) (c : LiteralChar) : Option CharSet :=
  if !f.unicode && c.byteEscape && 128 ≤ c.char.toNat then none else some (f.fold (.ofChar c.char))

/-- The set of the dot. -/
def dot (f : PatternFlags) : Option CharSet :=
  if !f.unicode then none
  else if f.dotAll then some CharSet.any
  else if f.carriageReturn then some (.compl (.codes ⟨[(10, 10), (13, 13)]⟩))
  else some (.compl (.codes ⟨[(10, 10)]⟩))

/-- The condition of an anchor. -/
def anchor (f : PatternFlags) : Anchor → Look
  | .textStart => .textStart
  | .textEnd => .textEnd
  | .lineStart =>
    if !f.multiLine then .textStart else if f.carriageReturn then .anyLineStart else .lineStart
  | .lineEnd =>
    if !f.multiLine then .textEnd else if f.carriageReturn then .anyLineEnd else .lineEnd
  | .wordBoundary => .word (fun before after => before != after) words
  | .notWordBoundary => .word (fun before after => before == after) words
  | .wordStart => .word (fun before after => !before && after) words
  | .wordEnd => .word (fun before after => before && !after) words
  | .wordStartHalf => .word (fun before _ => !before) words
  | .wordEndHalf => .word (fun _ after => !after) words
where
  words : CharSet := if f.unicode then Property.wordCharacters else CharSet.asciiWord

end PatternFlags

/-! ## Trees -/

namespace Pattern

mutual
/-- What a tree means under some flags, and the flags for what follows it in its
group. -/
def ofTree (f : PatternFlags) : PatternTree → Option (Pattern × PatternFlags)
  | .flags change => some (.empty, f.change change)
  | .literal c => (f.literal c).map fun s => (.one s, f)
  | .dot => f.dot.map fun s => (.one s, f)
  | .anchor a => some (.look (f.anchor a), f)
  | .letter c negated => (f.letter c negated).map fun s => (.one s, f)
  | .property text negated => (f.property text negated).map fun s => (.one s, f)
  | .bracket negated inside =>
    ((f.classSet inside).bind (f.close negated)).map fun s => (.one s, f)
  | .repetition inner least most => do
    let (p, f) ← ofTree f inner
    return (.repetition p least most, f)
  | .group change inner => do
    let (p, _) ← ofTree (f.change change) inner
    return (p, f)
  | .alternation branches => ofBranches f branches
  | .concat parts => ofParts f parts

/-- What parts mean one after the other. -/
def ofParts (f : PatternFlags) : List PatternTree → Option (Pattern × PatternFlags)
  | [] => some (.empty, f)
  | t :: ts => do
    let (p, f) ← ofTree f t
    let (q, f) ← ofParts f ts
    return (.seq p q, f)

/-- What branches mean; flags of a branch hold in the branches after it. -/
def ofBranches (f : PatternFlags) : List PatternTree → Option (Pattern × PatternFlags)
  | [] => some (.one .empty, f)
  | t :: ts => do
    let (p, f) ← ofTree f t
    let (q, f) ← ofBranches f ts
    return (.alt p q, f)
end

/-- The pattern that a text spells out. -/
def parse? (text : String) : Option Pattern := do
  let t ← PatternTree.parse? text.toList
  let (p, _) ← ofTree .initial t
  return p

end Pattern

end Worksheet
