import Worksheet.Number.Layout

/- Worksheet Values — what a cell holds.

   A cell holds a value or an error. Errors travel in band: they stand where a
   value would stand, so a bad input marks the cells that read it and stops
   nothing else. Nothing is converted between types. -/
namespace Worksheet

/-- The value of a cell. -/
inductive Value where
  | null
  | bool (b : Bool)
  | number (x : Float)
  | text (s : String)
  | list (items : List Value)
  deriving Repr, Inhabited

/-- Why a cell has no value. -/
inductive CellError where
  /-- A name without an entry was read. -/
  | unresolved
  | divisionByZero
  /-- An operand has the wrong type. -/
  | wrongType
  /-- The cell reads itself, directly or through other cells. -/
  | cycle
  /-- Any other failure: a bad call, a formula that does not parse, a result
  that is not finite. -/
  | generic
  deriving DecidableEq, Repr, Inhabited

/-- What a cell holds: a value or an error. -/
abbrev Entry := Except CellError Value

namespace CellError

def all : List CellError := [unresolved, divisionByZero, wrongType, cycle, generic]

/-- The tag that is shown in place of a value. -/
def tag : CellError → String
  | unresolved => "#REF!"
  | divisionByZero => "#DIV/0!"
  | wrongType => "#VALUE!"
  | cycle => "#CYCLE!"
  | generic => "#ERROR!"

/-- The error with the given tag, letter for letter. -/
def ofTag? (s : String) : Option CellError := all.find? (·.tag == s)

theorem ofTag?_tag (e : CellError) : ofTag? e.tag = some e := by
  cases e <;> rfl

end CellError

/-- A displayed number: zero has no sign. -/
def displayNumber (x : Float) : String :=
  if x == 0 then "0" else Layout.display.text x

namespace Value

mutual
/-- The displayed text of a value. -/
def display : Value → String
  | null => ""
  | bool b => if b then "TRUE" else "FALSE"
  | number x => displayNumber x
  | text s => s
  | list items => "[" ++ String.intercalate ", " (displayAll items) ++ "]"

/-- The displayed texts of some values. -/
def displayAll : List Value → List String
  | [] => []
  | v :: vs => v.display :: displayAll vs
end

/-- The name of the value's type. -/
def typeName : Value → String
  | null => "null"
  | bool _ => "boolean"
  | number _ => "number"
  | text _ => "string"
  | list _ => "list"

def isNull : Value → Bool
  | null => true
  | _ => false

def number? : Value → Option Float
  | number x => some x
  | _ => none

def bool? : Value → Option Bool
  | bool b => some b
  | _ => none

def text? : Value → Option String
  | text s => some s
  | _ => none

def list? : Value → Option (List Value)
  | list items => some items
  | _ => none

mutual
/-- Every value that is not a list, at any depth, from left to right. -/
def scalars : Value → List Value
  | list items => scalarsOf items
  | v => [v]

/-- The scalars of some values, from left to right. -/
def scalarsOf : List Value → List Value
  | [] => []
  | v :: vs => v.scalars ++ scalarsOf vs
end

mutual
/-- Whether two values agree, with numbers compared as numbers: zeros of either
sign agree, and NaN agrees with nothing. -/
def agrees : Value → Value → Bool
  | null, null => true
  | bool a, bool b => a == b
  | number x, number y => x == y
  | text s, text t => s == t
  | list xs, list ys => agreeAll xs ys
  | _, _ => false

/-- Whether two lists of values agree item by item. -/
def agreeAll : List Value → List Value → Bool
  | [], [] => true
  | x :: xs, y :: ys => x.agrees y && agreeAll xs ys
  | _, _ => false
end

end Value

/-- The displayed text of a cell. -/
def Entry.display : Entry → String
  | .ok v => v.display
  | .error e => e.tag

/-- Whether two entries hold values that agree or the same error. -/
def Entry.agrees : Entry → Entry → Bool
  | .ok v, .ok w => v.agrees w
  | .error e, .error f => e == f
  | _, _ => false

end Worksheet
