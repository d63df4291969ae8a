import Std.Data.ExtTreeMap
import Std.Data.ExtTreeSet
import Worksheet.Formula.References

/- Worksheet Dependency Graphs — which names read which.

   A graph declares names and holds edges from a reader to what it reads. Each
   edge is kept in both directions, so what reads a name is found without a
   search. A name that is read need not be declared. All names are listed in
   code point order. -/
namespace Worksheet

/-- A set of names, in code point order. -/
abbrev NameSet := Std.ExtTreeSet String

/-- The neighbours of each name that has any. -/
abbrev Adjacency := Std.ExtTreeMap String NameSet

namespace Adjacency

/-- The neighbours of a name. -/
def neighbours (m : Adjacency) (name : String) : NameSet := m.getD name ∅

/-- The map with one more neighbour of a name. -/
def link (m : Adjacency) (name other : String) : Adjacency :=
  Std.ExtTreeMap.insert m name ((neighbours m name).insert other)

theorem neighbours_link (m : Adjacency) (name other a : String) :
    neighbours (link m name other) a =
      if name = a then (neighbours m name).insert other else neighbours m a := by
  simp [link, neighbours, Std.ExtTreeMap.getD_insert]

end Adjacency

/-- The dependencies between names. -/
structure Graph where
  /-- The declared names. -/
  nodes : NameSet
  /-- What each name reads. -/
  reads : Adjacency
  /-- What reads each name. -/
  readers : Adjacency

namespace Graph

def empty : Graph := ⟨∅, ∅, ∅⟩

instance : EmptyCollection Graph := ⟨empty⟩

instance : Inhabited Graph := ⟨empty⟩

/-- The graph with a name declared. -/
def declare (g : Graph) (name : String) : Graph := { g with nodes := g.nodes.insert name }

/-- The graph with an edge: `reader` reads `name`. Neither is declared. -/
def addEdge (g : Graph) (reader name : String) : Graph :=
  { g with
    reads := Adjacency.link g.reads reader name
    readers := Adjacency.link g.readers name reader }

/-- The graph with a name declared that reads what an expression reads. -/
def addFormula (g : Graph) (name : String) (e : Expr) : Graph :=
  e.references.foldl (fun g r => g.addEdge name r) (g.declare name)

/-- What a name reads. -/
def dependencies (g : Graph) (name : String) : NameSet := Adjacency.neighbours g.reads name

/-- What reads a name. -/
def dependents (g : Graph) (name : String) : NameSet := Adjacency.neighbours g.readers name

def isDeclared (g : Graph) (name : String) : Bool := g.nodes.contains name

/-- The names that are read and not declared. -/
def dangling (g : Graph) : List String := g.readers.keys.filter (!g.isDeclared ·)

/-- The declared and the dangling names. -/
def allNodes (g : Graph) : NameSet := g.nodes.insertMany g.dangling

/-- Every name that occurs: declared, read, or reading. -/
def everyName (g : Graph) : NameSet := g.allNodes.insertMany g.reads.keys

/-- The steps that some things stand for, taken together. -/
def totalSteps {α : Type} (steps : α → Nat) : List α → Nat
  | [] => 0
  | a :: l => steps a + totalSteps steps l

/-- How many steps a search along `next` can take: one for each name and one for
each edge. -/
def extent (g : Graph) (next : String → NameSet) : Nat :=
  totalSteps (fun name => (next name).size + 1) g.everyName.toList

/-- The edges, from reader to what it reads. -/
def edges (g : Graph) : List (String × String) :=
  g.reads.toList.flatMap fun (reader, names) => names.toList.map fun name => (reader, name)

def edgeCount (g : Graph) : Nat := g.edges.length

theorem isDeclared_declare (g : Graph) (name a : String) :
    (g.declare name).isDeclared a = (name == a || g.isDeclared a) := by
  have h : (compare name a == .eq) = (name == a) := by
    rw [Bool.eq_iff_iff]
    simp
  rw [← h]
  exact Std.ExtTreeSet.contains_insert

/-- The graph without some names and without every edge at one of them. -/
def without (g : Graph) (removed : NameSet) : Graph :=
  let kept := (g.nodes.toList.filter (!removed.contains ·)).foldl declare ∅
  (g.edges.filter fun (reader, name) => !removed.contains reader && !removed.contains name).foldl
    (fun g (reader, name) => g.addEdge reader name) kept

end Graph

end Worksheet
