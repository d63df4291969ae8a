/- Worksheet Code Sets — sets of code points as lists of ranges.

   The character tables are written as text: hexadecimal ranges `41-5A`, evenly
   spaced code points `100-12E/2` and single code points `5F`, with blanks between
   them. -/
namespace Worksheet.Unicode

/-- A set of code points, as ranges that include both ends. -/
structure CodeSet where
  ranges : List (Nat × Nat)
  deriving Repr

namespace CodeSet

/-- Whether a code point lies in one of the ranges. -/
def contains (s : CodeSet) (n : Nat) : Bool := s.ranges.any fun r => r.1 ≤ n && n ≤ r.2

/-- Every `step`-th code point from `first` to `last`. -/
def spaced (first last step : Nat) : List (Nat × Nat) :=
  (List.range ((last - first) / step + 1)).map fun i => (first + i * step, first + i * step)

/-- The value of an upper case hexadecimal digit. -/
def hexValue (c : Char) : Nat := if c.isDigit then c.toNat - 48 else c.toNat - 55

/-- What has been read of a table: of the entry being read its finished numbers,
last number first, and the number being read, and the ranges before it, last range
first. -/
structure Scan where
  numbers : List Nat
  current : Nat
  done : List (Nat × Nat)

/-- The ranges of the entry being read. -/
def Scan.entry (s : Scan) : List (Nat × Nat) :=
  match s.numbers with
  | [] => [(s.current, s.current)]
  | [first] => [(first, s.current)]
  | last :: first :: _ => spaced first last s.current

/-- Ends the entry being read. -/
def Scan.close (s : Scan) : Scan := ⟨[], 0, s.entry.reverse ++ s.done⟩

/-- Reads one character of a table. -/
def Scan.step (s : Scan) (c : Char) : Scan :=
  if c = ' ' then s.close
  else if c = '-' || c = '/' then { s with numbers := s.current :: s.numbers, current := 0 }
  else { s with current := s.current * 16 + hexValue c }

/-- The set that one line of a table lists. -/
def ofLine (line : String) : CodeSet :=
  ⟨((line.toList.foldl Scan.step ⟨[], 0, []⟩).close).done.reverse⟩

/-- The set that a table lists. -/
def ofText (lines : List String) : CodeSet := ⟨lines.flatMap fun l => (ofLine l).ranges⟩

end CodeSet

end Worksheet.Unicode
