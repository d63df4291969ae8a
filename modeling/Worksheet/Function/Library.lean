import Std.Data.ExtTreeMap
import Worksheet.Function.Arithmetic
import Worksheet.Function.Logic
import Worksheet.Function.Text

/- Worksheet Libraries — the functions that are known by name.

   Names are looked up in upper case. Nothing is called that is not in the
   library, so a library can be trimmed, extended or left empty. -/
namespace Worksheet

/-- The known functions, by their names in upper case. -/
structure Library where
  functions : Std.ExtTreeMap String Function

namespace Library

def empty : Library := ⟨∅⟩

instance : EmptyCollection Library := ⟨empty⟩

/-- The function of a name, in whatever case the name is written. -/
def get? (l : Library) (name : String) : Option Function := l.functions[Unicode.upper name]?

def contains (l : Library) (name : String) : Bool := (l.get? name).isSome

/-- The library with a function added. It replaces one of the same name. -/
def insert (l : Library) (f : Function) : Library :=
  ⟨l.functions.insert (Unicode.upper f.name) f⟩

/-- The library without the function of a name. -/
def erase (l : Library) (name : String) : Library := ⟨l.functions.erase (Unicode.upper name)⟩

/-- The names in upper case and in code point order. -/
def names (l : Library) : List String := l.functions.keys

def size (l : Library) : Nat := l.functions.size

def isEmpty (l : Library) : Bool := l.functions.isEmpty

def ofList (fs : List Function) : Library := fs.foldl insert ∅

theorem get?_insert (l : Library) (f : Function) (name : String) :
    (l.insert f).get? name =
      if Unicode.upper f.name = Unicode.upper name then some f else l.get? name := by
  simp [get?, insert, Std.ExtTreeMap.getElem?_insert]

end Library

namespace Function

/-- A function that takes one argument or more. -/
def many (name : String) (rule : ArgumentRule) (apply : List Value → Entry) : Function :=
  ⟨name, 1, none, rule.accepts, apply⟩

/-- A function that takes between `lo` and `hi` arguments. -/
def between (name : String) (lo hi : Nat) (rule : ArgumentRule) (apply : List Value → Entry) :
    Function :=
  ⟨name, lo, some hi, rule.accepts, apply⟩

/-- The functions that every sheet knows unless it is told otherwise. -/
def builtins : List Function :=
  [many "SUM" .numbersOrLists sum,
   many "AVERAGE" .numbersOrLists average,
   many "MIN" .numbersOrLists min,
   many "MAX" .numbersOrLists max,
   ⟨"COUNT", 0, none, ArgumentRule.any.accepts, count⟩,
   between "ABS" 1 1 .numbers abs,
   between "INT" 1 1 .numbers int,
   between "SQRT" 1 1 .numbers sqrt,
   between "ROUND" 1 2 .numbers round,
   between "ROUNDUP" 1 2 .numbers roundUp,
   between "ROUNDDOWN" 1 2 .numbers roundDown,
   between "MOD" 2 2 .numbers mod,
   between "POWER" 2 2 .numbers power,
   between "IF" 2 3 .firstCondition ite,
   many "AND" .conditionsOrLists and,
   many "OR" .conditionsOrLists or,
   between "NOT" 1 1 .firstCondition not,
   many "CONCAT" .any concat,
   many "CONCATENATE" .any concat,
   between "LEN" 1 1 .scalars len,
   between "TEXT" 1 1 .scalars text,
   between "UPPER" 1 1 .texts upper,
   between "LOWER" 1 1 .texts lower,
   between "TRIM" 1 1 .texts trim]

end Function

/-- The library of the built-in functions. -/
def Library.builtin : Library := .ofList Function.builtins

end Worksheet
