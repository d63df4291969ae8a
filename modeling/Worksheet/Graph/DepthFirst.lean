import Worksheet.Graph.Basic

/- Worksheet Depth First Search — the loop behind the order and the search for a cycle.

   The search follows a path of names and keeps for each of them the neighbours that it has
   not looked at. A name has no colour before the search meets it. It is gray while it is
   on the path, and black when all its neighbours have been looked at. A neighbour that is
   gray closes a cycle, and the search ends there. -/
namespace Worksheet.Graph

/-- A name that is being visited, with its neighbours that have not been looked at. -/
structure Frame where
  name : String
  rest : List String

/-- The colour of a name that has been met. -/
inductive Colour where
  | gray
  | black
  deriving DecidableEq, Repr

/-- How far a search has come. -/
structure DepthFirst where
  /-- The names that are still to start from. -/
  starts : List String
  /-- The path that is being followed, last name first. -/
  frames : List Frame
  colours : Std.ExtTreeMap String Colour
  /-- The gray names, last name first. -/
  stack : List String
  /-- The black names, the one that turned black last first. -/
  finished : List String

namespace DepthFirst

/-- A search that has met nothing. -/
def start (starts : List String) : DepthFirst := ⟨starts, [], ∅, [], []⟩

/-- Meets a name for the first time. -/
def enter (s : DepthFirst) (next : String → NameSet) (name : String) : DepthFirst :=
  { s with
    frames := ⟨name, (next name).toList⟩ :: s.frames
    colours := s.colours.insert name .gray
    stack := name :: s.stack }

/-- Ends the visit of a name and goes back to the path before it. -/
def leave (s : DepthFirst) (name : String) (path : List Frame) : DepthFirst :=
  { s with
    frames := path
    colours := s.colours.insert name .black
    stack := s.stack.tail
    finished := name :: s.finished }

/-- Looks at a neighbour of the last name of the path. The cycle that a gray one closes is
the path from it on. -/
def look (s : DepthFirst) (next : String → NameSet) (name : String) :
    Except (List String) DepthFirst :=
  match s.colours[name]? with
  | none => .ok (s.enter next name)
  | some .gray => .error (s.stack.reverse.dropWhile (· != name))
  | some .black => .ok s

/-- One step of the search, unless it has come to its end; the error is a cycle. -/
def step (s : DepthFirst) (next : String → NameSet) :
    Except (List String) (Option DepthFirst) :=
  match s.frames with
  | ⟨name, neighbour :: rest⟩ :: path =>
    ({ s with frames := ⟨name, rest⟩ :: path }.look next neighbour).map some
  | ⟨name, []⟩ :: path => .ok (some (s.leave name path))
  | [] =>
    match s.starts with
    | [] => .ok none
    | name :: starts =>
      let s := { s with starts := starts }
      .ok (some (if s.colours.contains name then s else s.enter next name))

/-- At most `steps` steps of the search. -/
def run (next : String → NameSet) : Nat → DepthFirst → Except (List String) DepthFirst
  | 0, s => .ok s
  | steps + 1, s =>
    match s.step next with
    | .error cycle => .error cycle
    | .ok none => .ok s
    | .ok (some s) => run next steps s

/-- The search at its end: each name that is started from takes a step, and so does each
name that is met and each of its neighbours. -/
def pass (g : Graph) (next : String → NameSet) (starts : List String) :
    Except (List String) DepthFirst :=
  run next (starts.length + g.extent next) (start starts)

end DepthFirst

end Worksheet.Graph
