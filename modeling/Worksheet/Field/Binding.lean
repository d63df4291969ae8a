import Worksheet.Field.Listing
import Worksheet.Formula.Parser
import Worksheet.Graph.Basic

/- Worksheet Bindings — the fields that a sheet calculates, by name.

   A field is bound to its reference name. Of several fields with one name the
   first is bound, counting a frame before what is inside it; the others are
   ignored. A bound formula that can be read gives its name an edge to each name
   it reads, and every bound name is declared. -/
namespace Worksheet

/-- What a name is bound to. -/
inductive Cell where
  | formula (e : Expr)
  | unparsed (error : ParseError)
  | value (default : Value)

/-- The cell of a field. -/
def Field.cell : Field → Cell
  | .item _ (.formula text) =>
    match Formula.parse text with
    | .ok e => .formula e
    | .error error => .unparsed error
  | f => .value (f.default?.getD .null)

/-- A field with the name it is bound to. -/
structure Binding where
  name : String
  field : Field

def Binding.cell (b : Binding) : Cell := b.field.cell

namespace Field

/-- The fields that have a name, with their names. -/
def named (fs : List Field) : List Binding :=
  (flattenAll fs).filterMap fun f => f.reference.map fun name => ⟨name, f⟩

/-- The bindings whose names are not in `seen`, the first of each name. -/
def firsts : NameSet → List Binding → List Binding
  | _, [] => []
  | seen, b :: bs =>
    if seen.contains b.name then firsts seen bs else b :: firsts (seen.insert b.name) bs

/-- The fields that are bound to their names, in the order of the template. -/
def bindings (fs : List Field) : List Binding := firsts ∅ (named fs)

/-- The first name that is in `seen` or occurs before in the list. -/
def firstRepeated : NameSet → List String → Option String
  | _, [] => none
  | seen, name :: names =>
    if seen.contains name then some name else firstRepeated (seen.insert name) names

/-- The name of the first field that has the name of a field before it. -/
def duplicate? (fs : List Field) : Option String :=
  firstRepeated ∅ ((flattenAll fs).filterMap reference)

end Field

/-- The graph with a bound name declared, and its edges if it is a formula. -/
def Graph.bind (g : Graph) (b : Binding) : Graph :=
  match b.cell with
  | .formula e => g.addFormula b.name e
  | _ => g.declare b.name

/-- The dependencies of a template. -/
def Graph.ofFields (fs : List Field) : Graph := (Field.bindings fs).foldl Graph.bind ∅

/-- The message about a repeated name. -/
def duplicateMessage (name : String) : String := "Duplicate reference name: " ++ name

end Worksheet
