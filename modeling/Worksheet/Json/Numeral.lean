import Worksheet.Formula.Token

/- Worksheet JSON Numerals — from the digits of a number to the number.

   A numeral is what stands in a text. Readers differ in how they round it:
   `NumeralReading.nearest` rounds once, and `NumeralReading.scaled` makes a number
   of the digits and then scales it by a power of ten. Each of the two steps rounds,
   so what is read may lie beside the nearest number. -/
namespace Worksheet

/-- A number without its sign, as it is written: the digits before the point and
after it, and the exponent. -/
structure JsonNumeral where
  whole : List Char
  part : List Char
  exponent : Int
  deriving Repr

/-- The decimal that a numeral denotes. -/
def JsonNumeral.decimal (m : JsonNumeral) : Decimal :=
  ⟨Token.digitsValue (m.whole ++ m.part), m.exponent - m.part.length⟩

/-- A way of reading numerals. There is no number for those beyond all numbers. -/
abbrev NumeralReading := JsonNumeral → Option Float

namespace NumeralReading

/-- The number nearest to the decimal; one that is far too small is zero. -/
def nearest : NumeralReading := fun m =>
  let d := m.decimal
  if 400 < d.leadingExponent && d.digits != 0 then none
  else some (if d.leadingExponent < -400 || d.digits == 0 then 0 else d.toFloat)

/-- Takes up digits as long as 64 bits hold the number that they denote after `n`.
Gives that number and the digits that are left. -/
def takeDigits : Nat → List Char → Nat × List Char
  | n, [] => (n, [])
  | n, c :: cs =>
    let next := n * 10 + (c.toNat - 48)
    if next < UInt64.size then takeDigits next cs else (n, c :: cs)

/-- A power of ten. -/
def powerOfTen (n : Nat) : Float := Float.ofScientific 1 false n

/-- The greatest power of ten that a number is scaled by at once. -/
def greatestPower : Nat := 308

/-- A number divided by the greatest power so many times, or until it is zero, and
then by the power `rest`. -/
def lower (rest : Nat) : Nat → Float → Float
  | 0, x => x / powerOfTen rest
  | times + 1, x => if x == 0 then x else lower rest times (x / powerOfTen greatestPower)

/-- The number of the digits scaled by a power of ten. Digits that do not fit count
for their places only, and after the point not at all. -/
def scaled : NumeralReading := fun m =>
  let (n, left) := takeDigits 0 m.whole
  let (n, ignored) := takeDigits n m.part
  let x := Float.ofScientific n false 0
  let exponent := m.exponent + left.length - (m.part.length - ignored.length)
  let places := exponent.natAbs
  if exponent < 0 then
    let times := (places - 1) / greatestPower
    some (lower (places - times * greatestPower) times x)
  else if places ≤ greatestPower then some (x * powerOfTen places)
  else if x == 0 then some x
  else none

end NumeralReading

end Worksheet
