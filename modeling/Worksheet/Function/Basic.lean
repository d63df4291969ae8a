import Worksheet.Value

/- Worksheet Functions — what a formula can call.

   A function states how many arguments it takes and of which types; both are
   checked before it is applied, and none of its arguments is an error. -/
namespace Worksheet

/-- A function that formulas can call by name. -/
structure Function where
  name : String
  minArgs : Nat
  /-- The greatest number of arguments, or `none` when there is no limit. -/
  maxArgs : Option Nat
  /-- The check of the argument types. -/
  accepts : List Value → Bool
  apply : List Value → Entry

/-- Whether a function takes this many arguments. -/
def Function.takes (f : Function) (count : Nat) : Bool :=
  f.minArgs ≤ count && f.maxArgs.all (count ≤ ·)

/-! ## Argument types -/

/-- What a function demands of the types of its arguments. -/
inductive ArgumentRule where
  | any
  | numbers
  | numbersOrLists
  | texts
  /-- No argument is a list. -/
  | scalars
  /-- The first argument is a condition: a truth value or a number. -/
  | firstCondition
  | conditionsOrLists
  deriving DecidableEq, Repr

namespace ArgumentRule

def isNumber : Value → Bool
  | .number _ => true
  | _ => false

def isText : Value → Bool
  | .text _ => true
  | _ => false

def isList : Value → Bool
  | .list _ => true
  | _ => false

def isCondition : Value → Bool
  | .bool _ | .number _ => true
  | _ => false

/-- Whether the arguments are as the rule demands. -/
def accepts : ArgumentRule → List Value → Bool
  | any, _ => true
  | numbers, args => args.all isNumber
  | numbersOrLists, args => args.all fun v => isNumber v || isList v
  | texts, args => args.all isText
  | scalars, args => args.all (!isList ·)
  | firstCondition, args => args.head?.any isCondition
  | conditionsOrLists, args => args.all fun v => isCondition v || isList v

end ArgumentRule

/-! ## Arguments -/

namespace Function

/-- The number at a place among the arguments. -/
def numberArg (args : List Value) (i : Nat) : Except CellError Float :=
  match args[i]? with
  | some (.number x) => .ok x
  | _ => .error .generic

/-- The number at a place among the arguments, or a default where there is none. -/
def numberArgD (args : List Value) (i : Nat) (default : Float) : Except CellError Float :=
  match args[i]? with
  | some (.number x) => .ok x
  | none => .ok default
  | some _ => .error .generic

/-- The text of the first argument. -/
def textArg (args : List Value) : Except CellError String :=
  match args with
  | .text s :: _ => .ok s
  | _ => .error .generic

/-- Every number among the arguments, also inside lists. Other items are passed
over. -/
def numbers (args : List Value) : List Float := (Value.scalarsOf args).filterMap Value.number?

/-- A count as a number. Counts have 64 bits, so the greatest stands for all beyond. -/
def ofCount (n : Nat) : Float := Float.ofNat (min n (UInt64.size - 1))

end Function

/-- The number as a result: infinities and NaN are errors. -/
def finite (x : Float) : Entry := if x.isFinite then .ok (.number x) else .error .generic

end Worksheet
