import Worksheet.Graph.Basic

/- Worksheet Reachability — names that are connected through any number of edges.

   The search goes breadth first with a queue of names that have been met. A name
   may wait in the queue more than once; its neighbours join the queue when it is
   taken off for the first time. -/
namespace Worksheet.Graph

/-- Adds to `seen` the names of a queue and all that can be reached from them
along `next`. `steps` bounds how many names are taken off the queue. -/
def collect (next : String → NameSet) : Nat → NameSet → List String → NameSet
  | 0, seen, _ => seen
  | _ + 1, seen, [] => seen
  | steps + 1, seen, name :: queue =>
    if seen.contains name then collect next steps seen queue
    else collect next steps (seen.insert name) (queue ++ (next name).toList)

/-- The names that read a name, directly or through others. The name itself is
among them only if it is on a cycle. -/
def transitiveDependents (g : Graph) (name : String) : NameSet :=
  collect g.dependents ((g.dependents name).size + g.extent g.dependents) ∅
    (g.dependents name).toList

end Worksheet.Graph
