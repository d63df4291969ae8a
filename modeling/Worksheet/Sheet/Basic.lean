import Worksheet.Field.Binding
import Worksheet.Formula.Eval
import Worksheet.Graph.Component
import Worksheet.Graph.Cycle
import Worksheet.Graph.Order
import Worksheet.Graph.Reach

/- Worksheet Sheets — templates made ready for calculation.

   The formulas are read once, and the dependencies, the names on cycles and the
   order of evaluation are found once. Names on a cycle are left out of the
   order; what is left has no cycle, so it always has one. -/
namespace Worksheet

/-- A template made ready for calculation. -/
structure Sheet where
  cells : Std.ExtTreeMap String Cell
  graph : Graph
  /-- The names on a cycle. -/
  cyclic : NameSet
  /-- The other names that a field declares or that one of these reads, each after the
  names it reads. -/
  order : List String
  maxDepth : Nat

namespace Sheet

/-- The cells of a template by name. -/
def cellsOf (bs : List Binding) : Std.ExtTreeMap String Cell :=
  bs.foldl (fun m b => m.insert b.name b.cell) ∅

/-- The names on cycles and the order of the others. -/
def sequence (g : Graph) : NameSet × List String :=
  match g.topologicalOrder with
  | some order => (∅, order)
  | none =>
    let cyclic := g.cyclicReferences
    (cyclic, (g.without cyclic).topologicalOrder.getD [])

def ofFields (fs : List Field) : Sheet :=
  let graph := Graph.ofFields fs
  let (cyclic, order) := sequence graph
  ⟨cellsOf (Field.bindings fs), graph, cyclic, order, defaultMaxDepth⟩

def withMaxDepth (s : Sheet) (maxDepth : Nat) : Sheet := { s with maxDepth := maxDepth }

def cell? (s : Sheet) (name : String) : Option Cell := s.cells[name]?

/-- Whether a name is bound to a formula, which may be one that cannot be read. -/
def isFormula (s : Sheet) (name : String) : Bool :=
  match s.cell? name with
  | some (.formula _) | some (.unparsed _) => true
  | _ => false

/-- The formulas that cannot be read, by name. -/
def parseErrors (s : Sheet) : List (String × ParseError) :=
  s.cells.toList.filterMap fun
    | (name, .unparsed error) => some (name, error)
    | _ => none

/-- The names that are calculated again when `changed` changes: first those on a
cycle, then the others in the order of evaluation. `changed` is among them if it is
on a cycle or in the order. -/
def affected (s : Sheet) (changed : String) : List String :=
  let dependents := s.graph.transitiveDependents changed
  (s.cyclic.toList ++ s.order).filter fun name => name == changed || dependents.contains name

end Sheet

end Worksheet
