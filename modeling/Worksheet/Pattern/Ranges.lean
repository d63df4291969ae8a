import Worksheet.Pattern.CharSet

/- Worksheet Ranges of a Set — the fewest ranges that list what a set holds.

   A set is brought into normal form: its ranges ascend and do not touch. The
   operations between sets become operations between lists of ranges. -/
namespace Worksheet.CharSet

/-- Joins ranges that overlap or touch. The ranges ascend by their first ends. -/
def joinRanges : List (Nat × Nat) → List (Nat × Nat)
  | [] => []
  | [r] => [r]
  | r :: s :: rest =>
    if s.1 ≤ r.2 + 1 then joinRanges ((r.1, max r.2 s.2) :: rest) else r :: joinRanges (s :: rest)
termination_by rs => rs.length

/-- The normal form of some ranges. -/
def normalRanges (rs : List (Nat × Nat)) : List (Nat × Nat) :=
  joinRanges (rs.mergeSort fun r s => r.1 ≤ s.1)

/-- What is left out from `first` on by ranges in normal form. -/
def gapsFrom (first : Nat) : List (Nat × Nat) → List (Nat × Nat)
  | [] => if first ≤ 0x10FFFF then [(first, 0x10FFFF)] else []
  | r :: rest =>
    if first < r.1 then (first, r.1 - 1) :: gapsFrom (r.2 + 1) rest else gapsFrom (r.2 + 1) rest

/-- What ranges in normal form leave out. -/
def gaps (rs : List (Nat × Nat)) : List (Nat × Nat) := gapsFrom 0 rs

/-- What two lists of ranges in normal form share. -/
def sharedRanges (rs ss : List (Nat × Nat)) : List (Nat × Nat) :=
  gaps (normalRanges (gaps rs ++ gaps ss))

/-- The members of a set as ranges in normal form. -/
def ranges : CharSet → List (Nat × Nat)
  | codes s => normalRanges s.ranges
  | union a b => normalRanges (a.ranges ++ b.ranges)
  | inter a b => sharedRanges a.ranges b.ranges
  | diff a b => sharedRanges a.ranges (gaps b.ranges)
  | symmDiff a b =>
    normalRanges (sharedRanges a.ranges (gaps b.ranges) ++ sharedRanges b.ranges (gaps a.ranges))
  | compl a => gaps a.ranges
  | anyCase a =>
    let folded := foldRuns.flatMap (·.codePoints)
    let added := folded.filter fun n => (caseVariants n).any a.contains
    normalRanges (a.ranges ++ added.map fun n => (n, n))
  | anyAsciiCase a =>
    let added := (List.range 128).filter fun n => (asciiVariants n).any a.contains
    normalRanges (a.ranges ++ added.map fun n => (n, n))

end Worksheet.CharSet
