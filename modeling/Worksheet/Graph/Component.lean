import Worksheet.Graph.DepthFirst

/- Worksheet Components — the names on cycles, found in one pass.

   The pass goes depth first along what names read and numbers the names as it
   meets them. Beside its number each name has a low number: the least number of
   a name on the stack that it is known to lead to. A name stays on the stack
   until all that lead back to a name before it are known; a name whose low
   number is its own closes a component, which then leaves the stack. A component
   is cyclic when it has more than one member or its only member reads itself. -/
namespace Worksheet.Graph

/-- How far a pass has come. -/
structure Components where
  /-- The names that are still to start from. -/
  starts : List String
  /-- The path that is being followed, last name first. -/
  frames : List Frame
  /-- The number of the name that is met next. -/
  count : Nat
  index : Std.ExtTreeMap String Nat
  low : Std.ExtTreeMap String Nat
  /-- The names whose component is not closed, last name first. -/
  stack : List String
  onStack : NameSet
  /-- The members of the cyclic components that are closed. -/
  cyclic : NameSet

namespace Components

/-- A pass that has met nothing. -/
def start (g : Graph) : Components := ⟨g.nodes.toList, [], 0, ∅, ∅, [], ∅, ∅⟩

/-- Meets a name for the first time. -/
def visit (c : Components) (g : Graph) (name : String) : Components :=
  { c with
    frames := ⟨name, (g.dependencies name).toList⟩ :: c.frames
    count := c.count + 1
    index := c.index.insert name c.count
    low := c.low.insert name c.count
    stack := name :: c.stack
    onStack := c.onStack.insert name }

/-- The low number of a name; it is above every number if the name has not been
met. -/
def lowOf (c : Components) (name : String) : Nat := c.low.getD name c.count

/-- Makes the low number of a name at most `bound`. -/
def lower (c : Components) (name : String) (bound : Nat) : Components :=
  { c with low := c.low.modify name (min · bound) }

/-- The names of a stack down to a root, and the stack below it. -/
def popTo (root : String) : List String → List String × List String
  | [] => ([], [])
  | name :: stack =>
    if name = root then ([name], stack)
    else (name :: (popTo root stack).1, (popTo root stack).2)

/-- Closes the component of a root. -/
def close (c : Components) (g : Graph) (root : String) : Components :=
  let (members, stack) := popTo root c.stack
  { c with
    stack := stack
    onStack := members.foldl .erase c.onStack
    cyclic :=
      if 1 < members.length || (g.dependencies root).contains root then
        c.cyclic.insertMany members
      else c.cyclic }

/-- Looks at a name that the last name of the path reads. -/
def look (c : Components) (g : Graph) (name next : String) : Components :=
  match c.index[next]? with
  | none => c.visit g next
  | some i => if c.onStack.contains next then c.lower name i else c

/-- Goes back to a path from a name with the low number `low`, which is passed on to
the last name of the path. -/
def back (c : Components) (path : List Frame) (low : Nat) : Components :=
  match path with
  | [] => { c with frames := path }
  | parent :: _ => { c with frames := path }.lower parent.name low

/-- Ends the visit of a name and goes back to the path before it. -/
def leave (c : Components) (g : Graph) (name : String) (path : List Frame) : Components :=
  let low := c.lowOf name
  let c := c.back path low
  if c.index[name]? = some low then c.close g name else c

/-- One step of the pass, unless it has come to its end. -/
def step (c : Components) (g : Graph) : Option Components :=
  match c.frames with
  | ⟨name, next :: rest⟩ :: path => some ({ c with frames := ⟨name, rest⟩ :: path }.look g name next)
  | ⟨name, []⟩ :: path => some (c.leave g name path)
  | [] =>
    match c.starts with
    | [] => none
    | name :: starts =>
      let c := { c with starts := starts }
      some (if c.index.contains name then c else c.visit g name)

/-- At most `steps` steps of the pass. -/
def run (g : Graph) : Nat → Components → Components
  | 0, c => c
  | steps + 1, c =>
    match c.step g with
    | none => c
    | some c => run g steps c

/-- The pass at its end. -/
def pass (g : Graph) : Components := run g (g.nodes.size + g.extent g.dependencies) (start g)

end Components

/-- The names on a cycle that a declared name leads to. -/
def cyclicReferences (g : Graph) : NameSet := (Components.pass g).cyclic

end Worksheet.Graph
