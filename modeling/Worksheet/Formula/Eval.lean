import Worksheet.Context
import Worksheet.Formula.Expr
import Worksheet.Function.Library

/- Worksheet Evaluation — the entry that an expression denotes.

   Operands and arguments are evaluated from left to right, and the first error
   among them is the result. Evaluation reads the context at the names of the
   expression and nowhere else. -/
namespace Worksheet

/-- What expressions are evaluated against. -/
structure Environment where
  values : Context
  functions : Library
  /-- The deepest level at which an expression is evaluated; the root is at
  level zero. -/
  maxDepth : Nat

/-- The nesting that is evaluated unless a sheet is told otherwise. -/
def defaultMaxDepth : Nat := 512

namespace Environment

/-- The entry at a name; a name without an entry is an error. -/
def resolve (env : Environment) (name : String) : Entry :=
  (env.values.get? name).getD (.error .unresolved)

end Environment

namespace Expr

/-- The number that an operand has to be. -/
def operand : Value → Except CellError Float
  | .number x => .ok x
  | _ => .error .wrongType

def applyBinary (op : BinaryOp) (x y : Float) : Entry :=
  match op with
  | .add => finite (x + y)
  | .sub => finite (x - y)
  | .mul => finite (x * y)
  | .div => if y == 0 then .error .divisionByZero else finite (x / y)
  | .pow => finite (Number.realPower x y)

def applyPrefix (op : PrefixOp) (x : Float) : Float :=
  match op with
  | .plus => x
  | .negate => -x

/-- The result of a call, given its arguments or the first error among them.
The function and the number of arguments are checked first. -/
def applyCall (functions : Library) (name : String) (count : Nat)
    (args : Except CellError (List Value)) : Entry :=
  match functions.get? name with
  | none => .error .generic
  | some f =>
    if !f.takes count then .error .generic
    else do
      let vs ← args
      if f.accepts vs then f.apply vs else .error .generic

mutual
/-- The entry of an expression at a level of nesting. -/
def evalAt (env : Environment) (level : Nat) (e : Expr) : Entry :=
  if env.maxDepth < level then .error .generic
  else
    match e with
    | number x => .ok (.number x)
    | text s => .ok (.text s)
    | bool b => .ok (.bool b)
    | ref name => env.resolve name
    | binary op l r => do
      let v ← l.evalAt env (level + 1)
      let w ← r.evalAt env (level + 1)
      applyBinary op (← operand v) (← operand w)
    | unary op e => do
      return .number (applyPrefix op (← operand (← e.evalAt env (level + 1))))
    | percent e => do
      return .number ((← operand (← e.evalAt env (level + 1))) / 100)
    | call name args => applyCall env.functions name args.length (evalAll env (level + 1) args)

/-- The values of some expressions, or the first error among them. -/
def evalAll (env : Environment) (level : Nat) : List Expr → Except CellError (List Value)
  | [] => .ok []
  | e :: es => do
    let v ← e.evalAt env level
    let vs ← evalAll env level es
    return v :: vs
end

/-- The entry of an expression. -/
def eval (env : Environment) (e : Expr) : Entry := e.evalAt env 0

end Expr

end Worksheet
