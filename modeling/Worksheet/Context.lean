import Std.Data.ExtTreeMap
import Worksheet.Value

/- Worksheet Contexts — the entries of a sheet by name.

   A context is all the state there is: a pass reads one and gives another. The
   names are in code point order wherever they are listed, and two contexts are
   equal exactly when they hold the same entry at every name. -/
namespace Worksheet

/-- The entries of a sheet, by name. -/
structure Context where
  entries : Std.ExtTreeMap String Entry

namespace Context

def empty : Context := ⟨∅⟩

instance : EmptyCollection Context := ⟨empty⟩

instance : Inhabited Context := ⟨empty⟩

/-- The entry at a name. -/
def get? (c : Context) (name : String) : Option Entry := c.entries[name]?

/-- The value at a name, if the entry is a value. -/
def value? (c : Context) (name : String) : Option Value :=
  (c.get? name).bind fun e => e.toOption

/-- The error at a name, if the entry is an error. -/
def error? (c : Context) (name : String) : Option CellError :=
  match c.get? name with
  | some (.error e) => some e
  | _ => none

def contains (c : Context) (name : String) : Bool := (c.get? name).isSome

/-- The context with an entry put at a name. -/
def insert (c : Context) (name : String) (e : Entry) : Context := ⟨c.entries.insert name e⟩

/-- The context with a value put at a name. -/
def set (c : Context) (name : String) (v : Value) : Context := c.insert name (.ok v)

/-- The context without an entry at a name. -/
def erase (c : Context) (name : String) : Context := ⟨c.entries.erase name⟩

def size (c : Context) : Nat := c.entries.size

def isEmpty (c : Context) : Bool := c.entries.isEmpty

/-- The entries in the order of their names. -/
def toList (c : Context) : List (String × Entry) := c.entries.toList

/-- The entries put one after the other into a context; later ones win. -/
def insertAll (c : Context) (es : List (String × Entry)) : Context :=
  es.foldl (fun c e => c.insert e.1 e.2) c

def ofList (es : List (String × Entry)) : Context := insertAll ∅ es

def ofValues (vs : List (String × Value)) : Context := ofList (vs.map fun v => (v.1, .ok v.2))

/-- The entries that are errors. -/
def errors (c : Context) : List (String × CellError) :=
  c.toList.filterMap fun
    | (name, .error e) => some (name, e)
    | _ => none

/-- The entries that are values. -/
def values (c : Context) : List (String × Value) :=
  c.toList.filterMap fun
    | (name, .ok v) => some (name, v)
    | _ => none

/-- The entries at the names that satisfy a condition. -/
def restrict (c : Context) (p : String → Bool) : Context := ⟨c.entries.filter fun name _ => p name⟩

/-- Whether two contexts have the same names and entries that agree. -/
def agrees (c d : Context) : Bool :=
  c.size == d.size && c.toList.all fun (name, e) => (d.get? name).any e.agrees

/-! ## Reading what was written -/

theorem ext {c d : Context} (h : ∀ name, c.get? name = d.get? name) : c = d := by
  cases c; cases d
  exact congrArg Context.mk (Std.ExtTreeMap.ext_getElem? h)

@[simp] theorem get?_empty (name : String) : (∅ : Context).get? name = none :=
  Std.ExtTreeMap.getElem?_empty

theorem get?_insert (c : Context) (name other : String) (e : Entry) :
    (c.insert name e).get? other = if name = other then some e else c.get? other := by
  simp [get?, insert, Std.ExtTreeMap.getElem?_insert]

theorem get?_erase (c : Context) (name other : String) :
    (c.erase name).get? other = if name = other then none else c.get? other := by
  simp [get?, erase, Std.ExtTreeMap.getElem?_erase]

theorem get?_restrict (c : Context) (p : String → Bool) (name : String) :
    (c.restrict p).get? name = if p name then c.get? name else none := by
  rw [get?, restrict, Std.ExtTreeMap.getElem?_filter', ← get?]
  cases c.get? name <;> simp [Option.filter]

end Context

end Worksheet
