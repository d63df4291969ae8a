import Worksheet.Number.Decimal

/- Worksheet Number Layout — where the point and the exponent of a number go.

   The digits of a number are always the shortest that read back; a `Layout`
   fixes the rest: which leading exponents are written positionally, whether a
   whole number carries `.0`, and which way an exact tie between two shortest
   decimals goes. -/
namespace Worksheet

/-- How a finite number is laid out as text. -/
structure Layout where
  /-- The leading exponent is written positionally when this holds. -/
  positional : Int → Bool
  /-- A whole number in positional notation ends in `.0`. -/
  wholeFraction : Bool
  tie : Tie

/-- Displayed numbers never have an exponent, whole ones have no point, and a
tie goes away from zero. -/
def Layout.display : Layout := ⟨fun _ => true, false, .up⟩

/-- Numbers in interchange text always have a fraction or an exponent;
exponents from -5 to 15 are positional, and a tie goes to the even digit. -/
def Layout.interchange : Layout := ⟨fun e => -5 ≤ e && e ≤ 15, true, .even⟩

namespace Layout

/-- Digits with the point after the one that has exponent zero, padded with
zeros on the side where they do not reach it. -/
def positionalText (wholeFraction : Bool) (digits : List Char) (leading : Int) : List Char :=
  if leading < 0 then
    '0' :: '.' :: List.replicate (-leading - 1).toNat '0' ++ digits
  else
    let whole := leading.toNat + 1
    if digits.length ≤ whole then
      digits ++ List.replicate (whole - digits.length) '0' ++
        (if wholeFraction then ['.', '0'] else [])
    else digits.take whole ++ '.' :: digits.drop whole

/-- One digit, the rest behind a point, and an exponent with its sign. -/
def exponentText (digits : List Char) (leading : Int) : List Char :=
  digits.take 1 ++ (if digits.length ≤ 1 then [] else '.' :: digits.drop 1) ++
    'e' :: (if leading < 0 then '-' else '+') :: Nat.toDigits 10 leading.natAbs

/-- The text of a decimal. -/
def ofDecimal (l : Layout) (d : Decimal) : List Char :=
  if l.positional d.leadingExponent then
    positionalText l.wholeFraction d.digitChars d.leadingExponent
  else exponentText d.digitChars d.leadingExponent

/-- The text of a number without its sign. -/
def magnitude (l : Layout) (x : Float) : List Char :=
  match x.toModel.unpack with
  | .notANumber => "NaN".toList
  | .infinity _ => "inf".toList
  | .zero _ => l.ofDecimal ⟨0, 0⟩
  | .finite _ m e _ => l.ofDecimal (Decimal.shortest l.tie x.abs m e)

/-- Whether a number is written with a minus sign; zero keeps its sign. -/
def isNegative (x : Float) : Bool :=
  match x.toModel.unpack with
  | .notANumber => false
  | .infinity s => s == .negative
  | .zero s => s == .negative
  | .finite s _ _ _ => s == .negative

/-- The text of a number. -/
def text (l : Layout) (x : Float) : String :=
  String.ofList (if isNegative x then '-' :: l.magnitude x else l.magnitude x)

end Layout

end Worksheet
