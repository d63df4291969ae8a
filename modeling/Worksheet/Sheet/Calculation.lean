import Worksheet.Sheet.Basic

/- Worksheet Calculation — full and incremental passes over a sheet.

   A pass visits names in an order in which each name comes after what it reads,
   so every formula is evaluated once and sees only entries that are final. A
   full pass visits every name; an incremental pass visits the names that a
   change affects, and leaves every other entry as it is. -/
namespace Worksheet

/-- What a pass did. -/
structure Stats where
  formulas : Nat
  /-- The formulas that were calculated in this pass. -/
  calculated : Nat
  /-- The names on a cycle. -/
  circular : Nat
  /-- The formulas that cannot be read. -/
  unparsed : Nat
  /-- The calculated formulas whose entry is an error. -/
  errors : Nat
  deriving DecidableEq, Repr

/-- The result of a pass. -/
structure Calculation where
  context : Context
  stats : Stats

namespace Calculation

/-- Puts the result of a formula into the context and counts it. -/
def record (c : Calculation) (name : String) (e : Entry) : Calculation :=
  { context := c.context.insert name e
    stats := { c.stats with
      calculated := c.stats.calculated + 1
      errors := c.stats.errors + (match e with | .ok _ => 0 | .error _ => 1) } }

end Calculation

namespace Sheet

/-- The counts that hold before anything is calculated. -/
def baseStats (s : Sheet) : Stats :=
  { formulas := (s.cells.keys.filter s.isFormula).length
    calculated := 0
    circular := s.cyclic.size
    unparsed := s.parseErrors.length
    errors := 0 }

/-- Visits a name. A name on a cycle becomes an error, a formula is evaluated in
the context so far, and a value cell without an entry gets its default. -/
def visit (s : Sheet) (functions : Library) (c : Calculation) (name : String) : Calculation :=
  if s.cyclic.contains name then c.record name (.error .cycle)
  else
    match s.cell? name with
    | some (.formula e) => c.record name (e.eval ⟨c.context, functions, s.maxDepth⟩)
    | some (.unparsed _) => c.record name (.error .generic)
    | some (.value default) =>
      if c.context.contains name then c else { c with context := c.context.set name default }
    | none => c

/-- Visits some names one after the other. -/
def run (s : Sheet) (functions : Library) (names : List String) (context : Context) :
    Calculation :=
  names.foldl (s.visit functions) ⟨context, s.baseStats⟩

/-- A full pass: every formula is calculated and every missing value gets its
default. -/
def evaluateWith (s : Sheet) (functions : Library) (seed : Context) : Calculation :=
  s.run functions (s.cyclic.toList ++ s.order) seed

/-- A full pass with the built-in functions. -/
def evaluate (s : Sheet) (seed : Context) : Calculation := s.evaluateWith .builtin seed

/-- An incremental pass after a change at a name. -/
def recalculateWith (s : Sheet) (functions : Library) (changed : String) (context : Context) :
    Calculation :=
  s.run functions (s.affected changed) context

/-- An incremental pass with the built-in functions. -/
def recalculate (s : Sheet) (changed : String) (context : Context) : Calculation :=
  s.recalculateWith .builtin changed context

/-- Puts a value at a name and makes an incremental pass. -/
def update (s : Sheet) (changed : String) (value : Value) (context : Context) : Calculation :=
  s.recalculate changed (context.set changed value)

end Sheet

end Worksheet
