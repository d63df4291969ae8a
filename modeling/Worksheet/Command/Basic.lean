import Worksheet.Command.Args
import Worksheet.Sheet.Calculation
import Worksheet.Sheet.File
import Worksheet.Validation

/- Worksheet Command — what the command answers.

   The command is a function from what it is asked and the text of the file to
   what it prints. Nothing is printed on standard output before everything that
   can fail has been done, except by `check`, which reports what it finds and
   fails if it finds anything. -/
namespace Worksheet

/-- Why the command fails. -/
inductive CommandError where
  | unreadable (file : String)
  | malformed (file : String)
  /-- An assignment without an equals sign. -/
  | noAssignment (raw : String)
  /-- An assignment to no name. -/
  | noName (raw : String)
  | problems (count : Nat) (file : String)
  deriving DecidableEq, Repr

def CommandError.message : CommandError → String
  | unreadable file => "Failed to read '" ++ file ++ "'"
  | malformed file => "Failed to parse '" ++ file ++ "'"
  | noAssignment raw => "Expected REF=VALUE, got '" ++ raw ++ "'"
  | noName raw => "Missing reference name in '" ++ raw ++ "'"
  | problems count file => toString count ++ " problem(s) found in '" ++ file ++ "'"

/-- What the command prints on success, line by line, and what it says beside. -/
structure Report where
  lines : List String
  note : Option String

namespace Command

/-! ## Assignments -/

/-- The value that a text is: the value that it spells out as JSON, or else the
text itself. -/
def valueOf (codec : JsonCodec) (cs : List Char) : Value :=
  let s := String.ofList cs
  ((codec.read s).bind Value.ofJson?).getD (.text s)

/-- The name and the value of an assignment. The name has no white space around
it. -/
def assignment (codec : JsonCodec) (raw : String) : Except CommandError (String × Value) :=
  let cs := raw.toList
  match cs.dropWhile (· != '=') with
  | [] => .error (.noAssignment raw)
  | _ :: value =>
    let name := Unicode.trim (cs.takeWhile (· != '='))
    if name.isEmpty then .error (.noName raw) else .ok (String.ofList name, valueOf codec value)

/-! ## Printing contexts -/

/-- A text with blanks after it up to a width in characters. -/
def padRight (width : Nat) (s : String) : String :=
  s ++ String.ofList (List.replicate (width - s.length) ' ')

/-- A text with blanks before it up to a width in characters. -/
def padLeft (width : Nat) (s : String) : String :=
  String.ofList (List.replicate (width - s.length) ' ') ++ s

/-- A context as a table. The column of names is as wide as the longest name has
bytes. -/
def table (c : Context) : List String :=
  let width := (c.toList.map fun e => e.1.utf8ByteSize).foldl max 0
  c.toList.map fun (name, e) => padRight width name ++ "  " ++ e.display

/-- A context as a table or as JSON. -/
def contextLines (codec : JsonCodec) (json : Bool) (c : Context) : List String :=
  if json then [codec.write .pretty c.toJson] else table c

/-! ## Subcommands -/

/-- What `eval` reports: the context after the assignments. -/
def evalReport (codec : JsonCodec) (file : SheetFile) (raws : List String) (json : Bool)
    (maxDepth : Option Nat) : Except CommandError Report := do
  let edits ← raws.mapM (assignment codec)
  let seed := edits.foldl (fun c (name, v) => c.set name v) file.seed
  let sheet := (Sheet.ofFields file.fields).withMaxDepth (maxDepth.getD defaultMaxDepth)
  let result := sheet.evaluate seed
  return {
    lines := contextLines codec json result.context
    note := some ("Calculated " ++ toString result.stats.calculated ++ " formulas (" ++
      toString result.stats.errors ++ " errors, " ++ toString result.stats.circular ++
      " circular references)") }

/-- What a series of edits has led to. -/
structure Edited where
  context : Context
  affected : NameSet
  calculated : Nat

/-- Makes an edit and calculates what it affects. -/
def edit (sheet : Sheet) (e : Edited) (name : String) (v : Value) : Edited :=
  let result := sheet.update name v e.context
  ⟨result.context, e.affected.insertMany (sheet.affected name),
    e.calculated + result.stats.calculated⟩

/-- What `recalc` reports: the entries that the assignments affect. -/
def recalcReport (codec : JsonCodec) (file : SheetFile) (raws : List String) (json : Bool) :
    Except CommandError Report := do
  let edits ← raws.mapM (assignment codec)
  let sheet := Sheet.ofFields file.fields
  let start : Edited := ⟨(sheet.evaluate file.seed).context, ∅, 0⟩
  let result := edits.foldl (fun e (name, v) => edit sheet e name v) start
  return {
    lines := contextLines codec json (result.context.restrict result.affected.contains)
    note := some ("Recalculated " ++ toString result.calculated ++ " formulas") }

/-- The names with commas between them. -/
def commaList (names : List String) : String := String.intercalate ", " names

/-- A problem with a sheet, as the lines that report it. -/
abbrev Problem := List String

/-- The problems of a sheet: a repeated name, formulas that cannot be read, names
that nothing defines, a cycle, and values that their fields refuse. -/
def problems (engine : PatternEngine) (file : SheetFile) (sheet : Sheet) : List Problem :=
  (Field.duplicate? file.fields).toList.map (fun name => ["error: " ++ duplicateMessage name]) ++
  sheet.parseErrors.map (fun (name, e) => ["parse error in '" ++ name ++ "': " ++ e.display]) ++
  sheet.graph.dangling.map (fun name =>
    ["unknown reference '" ++ name ++ "' read by " ++
      commaList (sheet.graph.dependents name).toList]) ++
  sheet.graph.detectCycle.toList.map (fun path =>
    ["circular reference through " ++ String.intercalate " -> " path,
      "  on a cycle: " ++ commaList sheet.cyclic.toList]) ++
  (Field.contextIssuesWith engine file.fields file.seed).map (fun i => ["invalid value: " ++ i.display])

/-- What `check` reports: the problems, or that there are none. -/
def checkLines (engine : PatternEngine) (file : SheetFile) : List String × Nat :=
  let sheet := Sheet.ofFields file.fields
  let found := problems engine file sheet
  if found.isEmpty then
    (["OK: " ++ toString sheet.graph.nodes.size ++ " fields, no problems"], 0)
  else (found.flatten, found.length)

/-- The lines of an order from a number on. Formulas are marked with `=`, and
names that nothing defines with `?`. -/
def orderLines (sheet : Sheet) : Nat → List String → List String
  | _, [] => []
  | n, name :: names =>
    let mark :=
      if sheet.isFormula name then "=" else if sheet.graph.isDeclared name then " " else "?"
    (padLeft 4 (toString n) ++ " " ++ mark ++ " " ++ name) :: orderLines sheet (n + 1) names

/-- What `order` reports: the order of evaluation and the names on cycles. -/
def orderReport (file : SheetFile) : Report :=
  let sheet := Sheet.ofFields file.fields
  let cyclic := sheet.cyclic.toList
  { lines := orderLines sheet 1 sheet.order ++
      (if cyclic.isEmpty then [] else ["cyclic: " ++ commaList cyclic])
    note := none }

/-! ## The command -/

/-- What a run of the command leaves behind: its exit code and what it printed on
standard output and on standard error. -/
structure Outcome where
  code : Nat
  stdout : String
  stderr : String
  deriving DecidableEq, Repr

/-- Lines as text, each with its line end. -/
def unlines (lines : List String) : String := String.join (lines.map (· ++ "\n"))

def failure (lines : List String) (e : CommandError) : Outcome :=
  ⟨1, unlines lines, "Error: " ++ e.message ++ "\n"⟩

def success (r : Report) : Outcome := ⟨0, unlines r.lines, unlines r.note.toList⟩

def outcome : Except CommandError Report → Outcome
  | .ok r => success r
  | .error e => failure [] e

/-- The outcome of a command on a sheet. -/
def runOn (codec : JsonCodec) (engine : PatternEngine) (file : SheetFile) : Command → Outcome
  | .eval _ raws json maxDepth => outcome (evalReport codec file raws json maxDepth)
  | .recalc _ raws json => outcome (recalcReport codec file raws json)
  | .check path =>
    match checkLines engine file with
    | (lines, 0) => success ⟨lines, none⟩
    | (lines, count) => failure lines (.problems count path)
  | .order _ => success (orderReport file)

/-- The outcome of a command, given the text of its file if that can be read, with a
codec for interchange text and an engine for patterns. -/
def runWith (codec : JsonCodec) (engine : PatternEngine) (c : Command) (text : Option String) :
    Outcome :=
  match text with
  | none => failure [] (.unreadable c.file)
  | some text =>
    match SheetFile.ofText? codec text with
    | none => failure [] (.malformed c.file)
    | some file => runOn codec engine file c

/-- The outcome of a command. -/
def run (c : Command) (text : Option String) : Outcome := runWith .standard .standard c text

/-- The exit code for arguments that are not understood. -/
def usageCode : Nat := 2

end Command

end Worksheet
