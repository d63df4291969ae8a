import Worksheet.Graph.DepthFirst

/- Worksheet Cycles — one cycle of a graph.

   The search goes depth first along what names read, in code point order, and starts from
   the declared names. The first name that is met on the path again closes the cycle that
   is reported. -/
namespace Worksheet.Graph

/-- A cycle that a declared name leads to, each name once and before what it
reads. -/
def detectCycle (g : Graph) : Option (List String) :=
  match DepthFirst.pass g g.dependencies g.nodes.toList with
  | .error cycle => some cycle
  | .ok _ => none

end Worksheet.Graph
