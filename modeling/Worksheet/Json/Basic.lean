import Worksheet.Number.Layout

/- Worksheet JSON — trees of interchange text.

   Members of objects keep the order in which they are written, and may repeat.
   Integers are kept apart from other numbers, since a count must be written
   without a point. Text can be well formed and still name nothing: a number
   beyond all numbers, half of a surrogate pair, nesting without end. Such a part
   of a tree is `unreadable`; it does no harm where it is not looked at. -/
namespace Worksheet

inductive Json where
  | null
  | bool (b : Bool)
  | integer (n : Int)
  | decimal (x : Float)
  | text (s : String)
  | array (items : List Json)
  | object (members : List (String × Json))
  | unreadable
  deriving Repr, Inhabited

namespace Json

/-- Containers nested deeper than this are unreadable. -/
def nestingLimit : Nat := 127

mutual
/-- Whether no part of a tree is unreadable. -/
def isReadable : Json → Bool
  | null | bool _ | integer _ | decimal _ | text _ => true
  | array items => areReadable items
  | object members => membersReadable members
  | unreadable => false

def areReadable : List Json → Bool
  | [] => true
  | j :: js => j.isReadable && areReadable js

def membersReadable : List (String × Json) → Bool
  | [] => true
  | (_, j) :: ms => j.isReadable && membersReadable ms
end

/-- The number nearest to an integer. -/
def floatOfInt (n : Int) : Float :=
  if n < 0 then -Float.ofScientific n.natAbs false 0 else Float.ofScientific n.natAbs false 0

/-- The number that a tree is. -/
def number? : Json → Option Float
  | integer n => some (floatOfInt n)
  | decimal x => some x
  | _ => none

/-- The natural number that a tree is, written without a point or exponent. -/
def nat? : Json → Option Nat
  | integer n => if 0 ≤ n then some n.toNat else none
  | _ => none

def text? : Json → Option String
  | text s => some s
  | _ => none

def bool? : Json → Option Bool
  | bool b => some b
  | _ => none

def array? : Json → Option (List Json)
  | array items => some items
  | _ => none

/-- The text or nothing, which is written `null`. -/
def ofText? : Option String → Json
  | none => null
  | some s => text s

/-- The number or nothing, which is written `null`. -/
def ofNumber? : Option Float → Json
  | none => null
  | some x => decimal x

/-- The count or nothing, which is written `null`. -/
def ofNat? : Option Nat → Json
  | none => null
  | some n => integer n

end Json

end Worksheet
