import Worksheet.Function.Basic
import Worksheet.Number.Rounding

/- Worksheet Arithmetic Functions — sums, extremes, rounding and remainders. -/
namespace Worksheet.Function

/-- The sum of all numbers. -/
def sum (args : List Value) : Entry := finite (Number.sum (numbers args))

/-- The mean of all numbers; without any it divides by zero. -/
def average (args : List Value) : Entry :=
  let xs := numbers args
  if xs.isEmpty then .error .divisionByZero
  else finite (Number.sum xs / ofCount xs.length)

/-- The number that a choice between two leaves of many; zero without any. -/
def choose (f : Float → Float → Float) : List Float → Float
  | [] => 0
  | x :: xs => xs.foldl f x

def min (args : List Value) : Entry := .ok (.number (choose Number.least (numbers args)))

def max (args : List Value) : Entry := .ok (.number (choose Number.greatest (numbers args)))

def count (args : List Value) : Entry := .ok (.number (ofCount (numbers args).length))

def abs (args : List Value) : Entry := do
  return .number (← numberArg args 0).abs

/-- The greatest whole number that is not above the argument. -/
def int (args : List Value) : Entry := do
  return .number (Number.floor (← numberArg args 0))

def sqrt (args : List Value) : Entry := do
  let x ← numberArg args 0
  if x < 0 then .error .generic else return .number x.sqrt

/-- The range that numbers of digits are kept in. -/
def digitRange : Int × Int := (-2147483648, 2147483647)

/-- The number to round and the power of ten that brings its last kept digit to
the units. Digits left of the point count as negative. -/
def roundingArgs (args : List Value) : Except CellError (Float × Float) := do
  let x ← numberArg args 0
  let digits ← numberArgD args 1 0
  return (x, Number.intPower 10 (Number.clampToInt digitRange.1 digitRange.2 digits))

/-- Rounds to the nearest, halves away from zero. -/
def round (args : List Value) : Entry := do
  let (x, scale) ← roundingArgs args
  if x ≥ 0 then finite (Number.floor (x * scale + 0.5) / scale)
  else finite (Number.ceil (x * scale - 0.5) / scale)

/-- Rounds away from zero. -/
def roundUp (args : List Value) : Entry := do
  let (x, scale) ← roundingArgs args
  let scaled := x * scale
  finite ((if x ≥ 0 then Number.ceil scaled else Number.floor scaled) / scale)

/-- Rounds toward zero. -/
def roundDown (args : List Value) : Entry := do
  let (x, scale) ← roundingArgs args
  finite (Number.trunc (x * scale) / scale)

/-- The remainder, with the sign of the divisor. -/
def mod (args : List Value) : Entry := do
  let x ← numberArg args 0
  let y ← numberArg args 1
  if y == 0 then .error .divisionByZero
  else finite (x - y * Number.floor (x / y))

def power (args : List Value) : Entry := do
  let x ← numberArg args 0
  let y ← numberArg args 1
  finite (Number.realPower x y)

end Worksheet.Function
