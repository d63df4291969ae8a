/- Worksheet Case Runs — evenly spaced code points and what each maps to. -/
namespace Worksheet.Unicode

/-- A run `(first, last, step, shift)` maps every `step`-th code point from `first`
to `last` to the one `shift` further on. -/
abbrev CaseRun := Nat × Nat × Nat × Int

namespace CaseRun

/-- The code points of a run and what they are mapped to. -/
def codePoints (r : CaseRun) : List Nat :=
  let (first, last, step, shift) := r
  (List.range ((last - first) / step + 1)).flatMap fun i =>
    [first + i * step, (first + i * step + shift).toNat]

/-- What a run maps a code point to. -/
def image? (r : CaseRun) (n : Nat) : Option Nat :=
  let (first, last, step, shift) := r
  if first ≤ n && n ≤ last && (n - first) % step == 0 then some (n + shift).toNat else none

/-- The code point that a run maps to `n`. -/
def preimage? (r : CaseRun) (n : Nat) : Option Nat :=
  let (_, _, _, shift) := r
  let m := n - shift
  if 0 ≤ m && r.image? m.toNat == some n then some m.toNat else none

end CaseRun

end Worksheet.Unicode
