import Worksheet.Pattern.Basic
import Worksheet.Pattern.Ranges

/- Worksheet Pattern Size — how large a pattern is when it is written out.

   Written out, a counted repetition is as many copies, and a set of characters is
   the choice of the byte sequences that encode its members. The size counts bytes:
   32 for each step, and more for each way on from a choice. Patterns have to stay
   within a limit. -/
namespace Worksheet

/-! ## Encoded ranges -/

/-- A sequence of byte ranges. -/
abbrev ByteRanges := List (Nat × Nat)

/-- The fewest sequences for the numbers from `first` to `last` that are written as
one leading digit, to which `lead` is added, and so many digits to base 64. -/
def spellRange (lead : Nat) : Nat → Nat → Nat → List ByteRanges
  | 0, first, last => [[(lead + first, lead + last)]]
  | digits + 1, first, last =>
    let unit := Nat.pow 64 (digits + 1)
    let a := first / unit
    let b := last / unit
    let under (d lo hi : Nat) : List ByteRanges :=
      (spellRange 128 digits lo hi).map ((lead + d, lead + d) :: ·)
    let full : ByteRanges := List.replicate (digits + 1) (128, 191)
    if a = b then
      if first % unit = 0 && last % unit = unit - 1 then [(lead + a, lead + a) :: full]
      else under a (first % unit) (last % unit)
    else
      let low := if first % unit = 0 then [] else under a (first % unit) (unit - 1)
      let high := if last % unit = unit - 1 then [] else under b 0 (last % unit)
      let a := if first % unit = 0 then a else a + 1
      let b := if last % unit = unit - 1 then b + 1 else b
      low ++ (if a < b then [(lead + a, lead + (b - 1)) :: full] else []) ++ high

/-- The code points whose encodings have one length: the first and the last of them,
what is added to the leading digit, and the number of digits after it. -/
def encodingLengths : List (Nat × Nat × Nat × Nat) :=
  [(0, 0x7F, 0, 0), (0x80, 0x7FF, 192, 1), (0x800, 0xD7FF, 224, 2), (0xE000, 0xFFFF, 224, 2),
   (0x10000, 0x10FFFF, 240, 3)]

/-- The fewest byte sequences that encode a range of characters. -/
def encodeRange (r : Nat × Nat) : List ByteRanges :=
  encodingLengths.flatMap fun (first, last, lead, digits) =>
    let first := max first r.1
    let last := min last r.2
    if first ≤ last then spellRange lead digits first last else []

/-- How many steps two sequences share at their start. -/
def sharedSteps : ByteRanges → ByteRanges → Nat
  | a :: as, b :: bs => if a = b then sharedSteps as bs + 1 else 0
  | _, _ => 0

/-- The size of a choice of sequences, after a sequence before them. What a sequence
shares with the one before is not written out again. -/
def choiceSize : ByteRanges → List ByteRanges → Nat
  | _, [] => 0
  | before, s :: rest => 32 * (s.length - sharedSteps before s) + 4 + choiceSize s rest

/-- The size of a set of characters. One character is a sequence, and characters of
ASCII are one step with as many ways on as there are ranges. -/
def CharSet.size (s : CharSet) : Nat :=
  let rs := s.ranges
  match rs with
  | [(first, last)] =>
    if first = last then 32 * (Char.ofNat first).utf8Size else 64 + wide rs
  | _ => 64 + wide rs
where
  wide (rs : List (Nat × Nat)) : Nat :=
    if rs.all (·.2 < 128) then 8 * rs.length else choiceSize [] (rs.flatMap encodeRange)

namespace Pattern

/-! ## Written out -/

/-- Whether a pattern matches the empty text wherever its conditions hold. -/
def isNullable : Pattern → Bool
  | empty | look _ => true
  | one _ => false
  | seq a b => a.isNullable && b.isNullable
  | alt a b => a.isNullable || b.isNullable
  | repetition inner least _ => least == 0 || inner.isNullable

/-- Whether a pattern matches no text but the empty one. -/
def onlyEmpty : Pattern → Bool
  | empty | look _ => true
  | one (.codes ⟨[]⟩) => true
  | one _ => false
  | seq a b | alt a b => a.onlyEmpty && b.onlyEmpty
  | repetition inner _ most => most == some 0 || inner.onlyEmpty

/-- The size of a repetition of a pattern of some size. Beyond the copies that have
to match stands a choice for each that may, or one that goes back. -/
def repetitionSize (inner : Nat) (nullable : Bool) : Nat → Option Nat → Nat
  | 0, none => inner + (if nullable then 112 else 40)
  | least, none => least * inner + 40
  | 0, some 1 => inner + 72
  | 0, some most => 64 + most * (inner + 40)
  | least, some most =>
    if most ≤ least then least * inner else least * inner + 32 + (most - least) * (inner + 40)

/-- The size of a pattern. An empty part of a sequence adds nothing, nor does
repeating what matches the empty text alone. -/
def size : Pattern → Nat
  | empty | look _ => 32
  | one s => s.size
  | seq a empty => a.size
  | seq empty b => b.size
  | seq a b => a.size + b.size
  | alt a b => a.size + b.size + 4
  | repetition inner least most =>
    if inner.onlyEmpty then repetitionSize inner.size true (min least 1) (some 1)
    else repetitionSize inner.size inner.isNullable least most

/-- How large a pattern may be: ten mebibytes. -/
def sizeLimit : Nat := 10 * 1024 * 1024

/-- The size of what stands around every pattern. -/
def frameSize : Nat := 128

/-- Whether a pattern is small enough. -/
def fits (p : Pattern) : Bool := p.size + frameSize ≤ sizeLimit

end Pattern

end Worksheet
