import Worksheet.Graph.DepthFirst

/- Worksheet Evaluation Order — every name after all the names it reads.

   The search goes depth first along the readers of each name, so a name turns black after
   all its readers, and the names in the order in which they turned black, backwards, are
   the result. It starts from the last name, so that names that do not depend on each other
   come out sorted. -/
namespace Worksheet.Graph

/-- All names, declared or not, each after the names it reads; there is no such
order if the graph has a cycle. -/
def topologicalOrder (g : Graph) : Option (List String) :=
  match DepthFirst.pass g g.dependents g.allNodes.toList.reverse with
  | .error _ => none
  | .ok last => some last.finished

end Worksheet.Graph
