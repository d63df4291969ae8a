/- Worksheet Number Rounding — whole numbers beside a number, and powers of ten.

   The whole part of a finite number is read off its mantissa and exponent, so
   each rounding here is exact and keeps the sign of zero. Powers are taken by
   repeated squaring, which fixes the rounding of every intermediate product. -/
namespace Worksheet.Number

open Float.Model (UnpackedFloat)

/-- A whole magnitude with a sign; a negative zero is kept. -/
def signed (s : UnpackedFloat.Sign) (n : Nat) : Float :=
  match s with
  | .positive => Float.ofNat n
  | .negative => -Float.ofNat n

/-- Rounds a number that has a fractional part to a whole one: `awayFromZero`
says, by the sign, whether the magnitude is rounded up. Numbers that are whole,
infinite or NaN are left alone. -/
def toWhole (awayFromZero : UnpackedFloat.Sign → Bool) (x : Float) : Float :=
  match x.toModel.unpack with
  | .finite s m e _ =>
    let unit := Nat.pow 2 (-e).toNat
    if m % unit = 0 then x
    else signed s (m / unit + if awayFromZero s then 1 else 0)
  | _ => x

/-- The greatest whole number that is not above `x`. -/
def floor (x : Float) : Float := toWhole (· == .negative) x

/-- The least whole number that is not below `x`. -/
def ceil (x : Float) : Float := toWhole (· == .positive) x

/-- The whole part of `x`. -/
def trunc (x : Float) : Float := toWhole (fun _ => false) x

/-- The whole part of `x` as an integer between `lo` and `hi`: numbers beyond a
bound give the bound, and NaN gives zero. -/
def clampToInt (lo hi : Int) (x : Float) : Int :=
  match x.toModel.unpack with
  | .notANumber => 0
  | .infinity .negative => lo
  | .infinity .positive => hi
  | .zero _ => 0
  | .finite s m e _ =>
    let n := if 0 ≤ e then m * Nat.pow 2 e.toNat else m / Nat.pow 2 (-e).toNat
    max lo (min hi (match s with | .positive => (n : Int) | .negative => -(n : Int)))

/-- The product `acc × a ^ n`, squaring `a` once per binary digit of `n`. -/
def mulPower (acc a : Float) (n : Nat) : Float :=
  if h : n = 0 then acc
  else mulPower (if n % 2 = 1 then acc * a else acc) (a * a) (n / 2)
termination_by n
decreasing_by omega

/-- The power `a ^ n`; a negative exponent divides one by the positive power. -/
def intPower (a : Float) (n : Int) : Float :=
  if n < 0 then 1 / mulPower 1 a n.natAbs else mulPower 1 a n.natAbs

/-- The power `x ^ y` for real exponents. -/
def realPower (x y : Float) : Float := Float.pow x y

/-- The sum from left to right. It starts at negative zero, the one number that
changes no addend. -/
def sum (xs : List Float) : Float := xs.foldl (· + ·) (-0.0)

/-- The smaller of two numbers, the second of two equal ones; NaN gives way to a
number. -/
def least (a b : Float) : Float := if a.isNaN || b ≤ a then b else a

/-- The larger of two numbers, the second of two equal ones; NaN gives way to a
number. -/
def greatest (a b : Float) : Float := if a.isNaN || a ≤ b then b else a

end Worksheet.Number
