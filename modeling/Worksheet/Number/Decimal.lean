/- Worksheet Decimals — the shortest decimal that reads back as a given number.

   A finite number is an exact fraction, so the digits are chosen by natural
   number arithmetic alone: for one digit, two digits, and so on, the two grid
   points beside the number are tried, and the first grid with a point that
   rounds to the number supplies the digits. Of two such points the nearer is
   taken; `Tie` says which of two equally near ones. -/
namespace Worksheet

/-- The decimal `digits × 10 ^ exponent`. -/
structure Decimal where
  digits : Nat
  exponent : Int
  deriving DecidableEq, Repr

/-- Which of two equally near decimals is written. -/
inductive Tie where
  | up
  | even
  deriving DecidableEq, Repr

/-- A positive fraction. -/
structure Fraction where
  num : Nat
  den : Nat
  deriving DecidableEq, Repr

/-- The fraction `mantissa × 2 ^ exponent`. -/
def Fraction.ofBinary (mantissa : Nat) (exponent : Int) : Fraction :=
  if 0 ≤ exponent then ⟨mantissa * Nat.pow 2 exponent.toNat, 1⟩
  else ⟨mantissa, Nat.pow 2 (-exponent).toNat⟩

/-- The fraction divided by a power of ten. -/
def Fraction.shift (f : Fraction) (exponent : Int) : Fraction :=
  if 0 ≤ exponent then ⟨f.num, f.den * Nat.pow 10 exponent.toNat⟩
  else ⟨f.num * Nat.pow 10 (-exponent).toNat, f.den⟩

/-- How many decimal digits a natural number has. -/
def digitCount (n : Nat) : Nat := (Nat.toDigits 10 n).length

/-- The exponent of the leading decimal digit. The lengths of the two terms
determine it up to one. -/
def Fraction.leadingExponent (f : Fraction) : Int :=
  let guess : Int := digitCount f.num - digitCount f.den
  let scaled := f.shift guess
  if scaled.den ≤ scaled.num then guess else guess - 1

namespace Decimal

/-- The same decimal without trailing zeros among its digits. -/
def trim (d : Decimal) : Decimal :=
  if h : d.digits ≠ 0 ∧ d.digits % 10 = 0 then trim ⟨d.digits / 10, d.exponent + 1⟩ else d
termination_by d.digits
decreasing_by omega

theorem trim_trim (d : Decimal) : d.trim.trim = d.trim := by
  fun_induction trim d with
  | case1 d h ih => exact ih
  | case2 d h => rw [trim, dif_neg h]

/-- The number nearest to the decimal. Trailing zeros are left out first, so that
decimals of one value are read alike. -/
def toFloat (d : Decimal) : Float :=
  let t := d.trim
  if 0 ≤ t.exponent then Float.ofScientific t.digits false t.exponent.toNat
  else Float.ofScientific t.digits true (-t.exponent).toNat

theorem toFloat_trim (d : Decimal) : d.trim.toFloat = d.toFloat := by
  simp only [toFloat, trim_trim]

/-- The decimal that is `mantissa × 2 ^ exponent` to the last digit. -/
def exact (mantissa : Nat) (exponent : Int) : Decimal :=
  if 0 ≤ exponent then ⟨mantissa * Nat.pow 2 exponent.toNat, 0⟩
  else ⟨mantissa * Nat.pow 5 (-exponent).toNat, exponent⟩

/-- The grid points with the given exponent beside the fraction, the preferred
one first. A fraction on the grid has itself as its lower point. -/
def neighbours (tie : Tie) (f : Fraction) (exponent : Int) : List Decimal :=
  let scaled := f.shift exponent
  let low := scaled.num / scaled.den
  let twice := 2 * (scaled.num % scaled.den)
  let upFirst := scaled.den < twice ∨ scaled.den = twice ∧ (tie = .up ∨ low % 2 = 1)
  if upFirst then [⟨low + 1, exponent⟩, ⟨low, exponent⟩]
  else [⟨low, exponent⟩, ⟨low + 1, exponent⟩]

/-- The decimal on the coarsest of so many grids that reads back as `x`, where
`exponent` is that of the first grid tried. -/
def search? (tie : Tie) (x : Float) (f : Fraction) : Nat → Int → Option Decimal
  | 0, _ => none
  | grids + 1, exponent =>
    match (neighbours tie f exponent).find? (fun d => d.toFloat == x) with
    | some d => some d
    | none => search? tie x f grids (exponent - 1)

theorem toFloat_of_search? {tie : Tie} {x : Float} {f : Fraction} {grids : Nat} {exponent : Int}
    {d : Decimal} (h : search? tie x f grids exponent = some d) : (d.toFloat == x) = true := by
  fun_induction search? tie x f grids exponent with
  | case1 => simp at h
  | case2 grids exponent e he =>
    obtain rfl := Option.some.inj h
    have hp := List.find?_some he
    exact hp
  | case3 grids exponent he ih => exact ih h

/-- The shortest decimal that reads back as the positive number `x`, which is
`mantissa × 2 ^ exponent`. Seventeen digits always suffice; behind them stands the
exact value, so that nothing has to be known of them here. -/
def shortest (tie : Tie) (x : Float) (mantissa : Nat) (exponent : Int) : Decimal :=
  let f := Fraction.ofBinary mantissa exponent
  ((search? tie x f 17 f.leadingExponent).getD (exact mantissa exponent)).trim

/-- The digits, most significant first. -/
def digitChars (d : Decimal) : List Char := Nat.toDigits 10 d.digits

/-- The exponent of the first digit. -/
def leadingExponent (d : Decimal) : Int := d.exponent + d.digitChars.length - 1

end Decimal

end Worksheet
