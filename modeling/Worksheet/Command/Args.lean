/- Worksheet Command Arguments — what the command is asked to do.

   Options may stand anywhere after the name of the subcommand, and `--` ends
   them. An option's value follows it, joined by `=` or as the next argument,
   which may then not start with a dash. Every option but `--set` is given at most
   once, and every subcommand takes one file. -/
namespace Worksheet

/-- What the command is asked to do with a file. -/
inductive Command where
  /-- Evaluate the sheet after some assignments. -/
  | eval (file : String) (assignments : List String) (json : Bool) (maxDepth : Option Nat)
  /-- Evaluate the sheet, then show what some assignments change. -/
  | recalc (file : String) (assignments : List String) (json : Bool)
  /-- Report what is wrong with the sheet. -/
  | check (file : String)
  /-- List the names in the order of evaluation. -/
  | order (file : String)
  deriving Repr

def Command.file : Command → String
  | eval file _ _ _ => file
  | recalc file _ _ => file
  | check file => file
  | order file => file

/-- The options that a subcommand knows. -/
structure KnownOptions where
  assignments : Bool
  json : Bool
  maxDepth : Bool

/-- The arguments of a subcommand so far. -/
structure GivenArgs where
  file : Option String
  assignments : List String
  json : Bool
  maxDepth : Option Nat

namespace GivenArgs

def empty : GivenArgs := ⟨none, [], false, none⟩

/-- Takes the file. -/
def addFile (g : GivenArgs) (s : String) : Option GivenArgs :=
  if g.file.isSome || s.isEmpty then none else some { g with file := some s }

/-- The number that a text is: digits, perhaps after a plus sign, of 64 bits. -/
def depthOf? (s : String) : Option Nat :=
  let digits := match s.toList with
    | '+' :: cs => cs
    | cs => cs
  let n := digits.foldl (fun n c => n * 10 + (c.toNat - 48)) 0
  if digits.isEmpty || !digits.all Char.isDigit || UInt64.size ≤ n then none else some n

/-- The options that take a value. -/
inductive Valued where
  | assignment
  | maxDepth
  deriving DecidableEq, Repr

/-- Takes the value of an option. -/
def addValue (g : GivenArgs) (o : Valued) (s : String) : Option GivenArgs :=
  match o with
  | .assignment => some { g with assignments := g.assignments ++ [s] }
  | .maxDepth =>
    if g.maxDepth.isSome then none
    else (depthOf? s).map fun n => { g with maxDepth := some n }

/-- The option with a value that has this name. -/
def valued? (k : KnownOptions) (name : String) : Option Valued :=
  if k.assignments && name = "set" then some .assignment
  else if k.maxDepth && name = "max-depth" then some .maxDepth
  else none

/-- Whether an argument can be the value of the option before it. -/
def canBeValue (s : String) : Bool := s = "-" || s.toList.head? != some '-'

/-- Takes a long option: its value is in the same argument or still to come, which
the second result tells. -/
def addLong (k : KnownOptions) (g : GivenArgs) (cs : List Char) :
    Option (GivenArgs × Option Valued) :=
  let name := String.ofList (cs.takeWhile (· != '='))
  match cs.dropWhile (· != '=') with
  | [] =>
    if k.json && name = "json" then
      if g.json then none else some ({ g with json := true }, none)
    else (valued? k name).map fun o => (g, some o)
  | _ :: value => do
    return (← g.addValue (← valued? k name) (String.ofList value), none)

/-- Takes a short option in the same way. -/
def addShort (k : KnownOptions) (g : GivenArgs) (cs : List Char) :
    Option (GivenArgs × Option Valued) :=
  if !k.assignments then none
  else
    match cs with
    | ['s'] => some (g, some .assignment)
    | 's' :: '=' :: value => (g.addValue .assignment (String.ofList value)).map (·, none)
    | 's' :: value => (g.addValue .assignment (String.ofList value)).map (·, none)
    | _ => none

/-- Takes the arguments of a subcommand one by one. `pending` is the option whose
value comes next. -/
def addAll (k : KnownOptions) (pending : Option Valued) (g : GivenArgs) :
    List String → Option GivenArgs
  | [] => if pending.isSome then none else some g
  | s :: rest =>
    match pending with
    | some o =>
      if canBeValue s then do
        addAll k none (← g.addValue o s) rest
      else none
    | none =>
      match s.toList with
      | ['-', '-'] => rest.foldlM addFile g
      | '-' :: '-' :: cs => do
        let (g, pending) ← addLong k g cs
        addAll k pending g rest
      | '-' :: c :: cs => do
        let (g, pending) ← addShort k g (c :: cs)
        addAll k pending g rest
      | _ => do
        addAll k none (← g.addFile s) rest

end GivenArgs

namespace Command

/-- What the arguments ask for; none if they are not understood. -/
def ofArgs? : List String → Option Command
  | [] => none
  | name :: args =>
    let given (k : KnownOptions) := GivenArgs.addAll k none .empty args
    match name with
    | "eval" => do
      let g ← given ⟨true, true, true⟩
      return .eval (← g.file) g.assignments g.json g.maxDepth
    | "recalc" => do
      let g ← given ⟨true, true, false⟩
      guard !g.assignments.isEmpty
      return .recalc (← g.file) g.assignments g.json
    | "check" => do
      let g ← given ⟨false, false, false⟩
      return .check (← g.file)
    | "order" => do
      let g ← given ⟨false, false, false⟩
      return .order (← g.file)
    | _ => none

end Command

end Worksheet
