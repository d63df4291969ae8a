import Worksheet.Number.Layout

/- Worksheet Expressions — the trees that formulas denote.

   The text of a tree is fully parenthesised, so it shows how the operators of
   a formula group. -/
namespace Worksheet

inductive BinaryOp where
  | add | sub | mul | div | pow
  deriving DecidableEq, Repr

/-- The operators that stand before their operand. -/
inductive PrefixOp where
  | plus | negate
  deriving DecidableEq, Repr

/-- An expression. Names of called functions are in upper case when they come
from a formula's text. -/
inductive Expr where
  | number (x : Float)
  | text (s : String)
  | bool (b : Bool)
  | ref (name : String)
  | binary (op : BinaryOp) (left right : Expr)
  | unary (op : PrefixOp) (operand : Expr)
  | percent (operand : Expr)
  | call (name : String) (args : List Expr)
  deriving Repr, Inhabited

def BinaryOp.all : List BinaryOp := [.add, .sub, .mul, .div, .pow]

def BinaryOp.symbol : BinaryOp → String
  | add => "+"
  | sub => "-"
  | mul => "*"
  | div => "/"
  | pow => "^"

def PrefixOp.all : List PrefixOp := [.plus, .negate]

def PrefixOp.symbol : PrefixOp → String
  | plus => "+"
  | negate => "-"

/-- A string literal: quotes and backslashes follow a backslash. -/
def quoteText (s : String) : String :=
  "\"" ++ String.ofList (s.toList.flatMap fun c =>
    if c = '\\' || c = '"' then ['\\', c] else [c]) ++ "\""

namespace Expr

mutual
/-- The number of nodes on the longest path from the root to a leaf. -/
def height : Expr → Nat
  | number _ | text _ | bool _ | ref _ => 1
  | binary _ l r => max l.height r.height + 1
  | unary _ e => e.height + 1
  | percent e => e.height + 1
  | call _ args => heightAll args + 1

/-- The height of the tallest of some expressions. -/
def heightAll : List Expr → Nat
  | [] => 0
  | e :: es => max e.height (heightAll es)
end

mutual
/-- The text of an expression. -/
def render : Expr → String
  | number x => Layout.display.text x
  | text s => quoteText s
  | bool b => if b then "TRUE" else "FALSE"
  | ref name => name
  | binary op l r => "(" ++ l.render ++ " " ++ op.symbol ++ " " ++ r.render ++ ")"
  | unary op e => "(" ++ op.symbol ++ e.render ++ ")"
  | percent e => "(" ++ e.render ++ "%)"
  | call name args => name ++ "(" ++ String.intercalate ", " (renderAll args) ++ ")"

/-- The texts of some expressions. -/
def renderAll : List Expr → List String
  | [] => []
  | e :: es => e.render :: renderAll es
end

end Expr

end Worksheet
