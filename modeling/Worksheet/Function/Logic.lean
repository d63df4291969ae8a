import Worksheet.Function.Basic

/- Worksheet Logic Functions — conditions. -/
namespace Worksheet.Function

/-- The truth value of a condition: a number holds unless it is zero. -/
def truth? : Value → Option Bool
  | .bool b => some b
  | .number x => some (x != 0)
  | _ => none

/-- The truth value of the first argument. -/
def conditionArg (args : List Value) : Except CellError Bool :=
  match args.head?.bind truth? with
  | some b => .ok b
  | none => .error .generic

/-- The second argument if the first holds, else the third, which is false when
it is not given. -/
def ite (args : List Value) : Entry := do
  if ← conditionArg args then
    match args[1]? with
    | some v => return v
    | none => .error .generic
  else return args[2]?.getD (.bool false)

/-- Whether no condition fails. -/
def and (args : List Value) : Entry :=
  .ok (.bool ((Value.scalarsOf args).all (truth? · != some false)))

/-- Whether some condition holds. -/
def or (args : List Value) : Entry :=
  .ok (.bool ((Value.scalarsOf args).any (truth? · == some true)))

def not (args : List Value) : Entry := do
  return .bool !(← conditionArg args)

end Worksheet.Function
