import Worksheet.Pattern.Folding
import Worksheet.Unicode.CodeSet

/- Worksheet Character Sets — what one character of a text may be.

   A set is built from code point tables by the operations of bracketed classes.
   Ignoring case closes a set under the case variants of its members. -/
namespace Worksheet

/-- A set of code points. -/
inductive CharSet where
  | codes (s : Unicode.CodeSet)
  | union (a b : CharSet)
  | inter (a b : CharSet)
  | diff (a b : CharSet)
  | symmDiff (a b : CharSet)
  | compl (a : CharSet)
  /-- All that differs from a member by case alone. -/
  | anyCase (a : CharSet)
  /-- All that differs from a member by the case of an ASCII letter alone. -/
  | anyAsciiCase (a : CharSet)
  deriving Repr

namespace CharSet

/-- A code point and the ASCII letter that differs from it by case alone. -/
def asciiVariants (n : Nat) : List Nat :=
  if 65 ≤ n && n ≤ 90 then [n, n + 32]
  else if 97 ≤ n && n ≤ 122 then [n, n - 32]
  else [n]

/-- Whether a code point is in a set. -/
def contains : CharSet → Nat → Bool
  | codes s, n => s.contains n
  | union a b, n => a.contains n || b.contains n
  | inter a b, n => a.contains n && b.contains n
  | diff a b, n => a.contains n && !b.contains n
  | symmDiff a b, n => a.contains n != b.contains n
  | compl a, n => !a.contains n
  | anyCase a, n => (caseVariants n).any a.contains
  | anyAsciiCase a, n => (asciiVariants n).any a.contains

def ofRange (first last : Nat) : CharSet := .codes ⟨[(first, last)]⟩

def ofChar (c : Char) : CharSet := ofRange c.toNat c.toNat

def empty : CharSet := .codes ⟨[]⟩

/-- Every code point. -/
def any : CharSet := ofRange 0 0x10FFFF

/-- The set that a table lists. -/
def ofText (lines : List String) : CharSet := .codes (.ofText lines)

/-- Whether no byte beyond ASCII is in a set. -/
def isAscii (s : CharSet) : Bool := (List.range' 128 128).all (!s.contains ·)

/-! ## Classes of ASCII -/

def asciiDigits : CharSet := ofRange 48 57

def asciiBlanks : CharSet := .codes ⟨[(9, 13), (32, 32)]⟩

def asciiWord : CharSet := .codes ⟨[(48, 57), (65, 90), (95, 95), (97, 122)]⟩

/-- The classes that have names inside brackets. -/
def posix? : String → Option CharSet
  | "alnum" => some (.codes ⟨[(48, 57), (65, 90), (97, 122)]⟩)
  | "alpha" => some (.codes ⟨[(65, 90), (97, 122)]⟩)
  | "ascii" => some (.codes ⟨[(0, 127)]⟩)
  | "blank" => some (.codes ⟨[(9, 9), (32, 32)]⟩)
  | "cntrl" => some (.codes ⟨[(0, 31), (127, 127)]⟩)
  | "digit" => some asciiDigits
  | "graph" => some (.codes ⟨[(33, 126)]⟩)
  | "lower" => some (.codes ⟨[(97, 122)]⟩)
  | "print" => some (.codes ⟨[(32, 126)]⟩)
  | "punct" => some (.codes ⟨[(33, 47), (58, 64), (91, 96), (123, 126)]⟩)
  | "space" => some asciiBlanks
  | "upper" => some (.codes ⟨[(65, 90)]⟩)
  | "word" => some asciiWord
  | "xdigit" => some (.codes ⟨[(48, 57), (65, 70), (97, 102)]⟩)
  | _ => none

end CharSet

end Worksheet
