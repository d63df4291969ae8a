import Worksheet.Proofs.Command.Eval
import Worksheet.Proofs.Graph.Cycle
import Worksheet.Proofs.Sheet.Errors

/- Worksheet Checks from the Command Line — what `check` promises about `eval`.

   `check` succeeds exactly if it finds none of its problems (`Command.run_check_iff`). Two
   of these are what makes a template sealed: that no name is dangling and that no cycle is
   found (`Field.sealed_iff`). Assignments put values into the seed, never errors, so no
   formula of a checked sheet is ever calculated from a name that is missing or on a cycle,
   whatever is assigned (`Command.eval_of_check`). -/
namespace Worksheet

/-- The names of a template that are read and not bound, and its cycles, are found. -/
theorem Field.sealed_iff {fs : List Field} :
    Sealed fs ↔ (Graph.ofFields fs).dangling = [] ∧ (Graph.ofFields fs).detectCycle = none := by
  have hw : (Graph.ofFields fs).WellFormed := Graph.wellFormed_ofFields
  have hdangling : (Graph.ofFields fs).dangling = [] ↔ ∀ r n, Reads fs r n → Bound fs n := by
    rw [Graph.dangling, List.filter_eq_nil_iff]
    simp only [Std.ExtTreeMap.mem_keys, hw.mem_readers_iff, Graph.reads_ofFields,
      Bool.not_eq_true', Bool.not_eq_false, Graph.isDeclared_ofFields]
    constructor
    · intro h r n hread
      exact h n ⟨r, hread⟩
    · rintro h n ⟨r, hread⟩
      exact h r n hread
  have hcycle : (Graph.ofFields fs).detectCycle = none ↔ ∀ n, ¬ OnCycle fs n := by
    rw [hw.detectCycle_eq_none_iff]
    refine forall_congr' fun n => not_congr ?_
    rw [hw.mem_cyclicReferences_iff_onCycle fun _ _ => Graph.isDeclared_of_reads,
      Graph.onCycle_ofFields]
  rw [hdangling, hcycle]
  exact ⟨fun h => ⟨h.bound, h.acyclic⟩, fun h => ⟨h.1, h.2⟩⟩

namespace Command

variable {codec : JsonCodec} {engine : PatternEngine} {file : SheetFile}
  {edits : List (String × Value)} {maxDepth : Option Nat}

/-- What `check` does not find in a sheet without problems. -/
theorem problems_eq_nil {s : Sheet} :
    problems engine file s = [] ↔
      Field.duplicate? file.fields = none ∧ s.parseErrors = [] ∧ s.graph.dangling = [] ∧
        s.graph.detectCycle = none ∧ Field.contextIssuesWith engine file.fields file.seed = [] := by
  simp [problems]

/-- A sheet without problems is sealed. -/
theorem sealed_of_problems (h : problems engine file (Sheet.ofFields file.fields) = []) :
    Field.Sealed file.fields := by
  obtain ⟨-, -, hdangling, hcycle, -⟩ := problems_eq_nil.mp h
  rw [Sheet.graph_ofFields] at hdangling hcycle
  exact Field.sealed_iff.mpr ⟨hdangling, hcycle⟩

/-- `check` succeeds on the files that can be read and have no problems. -/
theorem run_check_iff {path : String} {text : Option String} :
    (runWith codec engine (.check path) text).code = 0 ↔
      ∃ file, text.bind (SheetFile.ofText? codec) = some file ∧
        problems engine file (Sheet.ofFields file.fields) = [] := by
  cases text with
  | none => simp [runWith, failure]
  | some t =>
    rw [Option.bind_some, runWith]
    cases SheetFile.ofText? codec t with
    | none => simp [failure]
    | some file =>
      cases hproblems : problems engine file (Sheet.ofFields file.fields) with
      | nil => simp [runOn, checkLines, hproblems, success]
      | cons p ps => simp [runOn, checkLines, hproblems, failure]

theorem not_error_evaluated (hs : Field.Sealed file.fields) {err : CellError}
    (hlocal : ¬ err.IsLocal) (x : String) :
    (evaluated file edits maxDepth).get? x ≠ some (.error err) :=
  hs.not_error (solution_evaluated file edits maxDepth)
    ((Context.ErrorFree.ofValues file.values).foldl_set edits) hlocal x

/-- Whatever the codec and the engine for patterns do: if `check` finds no problem in a file,
then `eval` succeeds on it with all assignments and at every nesting limit, and the context
that it prints has an entry at the name of every field and neither `#REF!` nor `#CYCLE!`
anywhere. -/
theorem eval_of_check {path : String} {text : Option String} {raws : List String}
    (json : Bool) (maxDepth : Option Nat)
    (hcheck : (runWith codec engine (.check path) text).code = 0)
    (hedits : raws.mapM (assignment codec) = .ok edits) :
    ∃ file, text.bind (SheetFile.ofText? codec) = some file ∧
      let o := runWith codec engine (.eval path raws json maxDepth) text
      let c := evaluated file edits maxDepth
      o.code = 0 ∧ o.stdout = unlines (contextLines codec json c) ∧
        (∀ x, c.get? x ≠ some (.error .unresolved) ∧ c.get? x ≠ some (.error .cycle)) ∧
        ∀ f ∈ Field.flattenAll file.fields, ∀ name, f.reference = some name →
          ∃ e, c.get? name = some e := by
  obtain ⟨file, hfile, hproblems⟩ := run_check_iff.mp hcheck
  obtain ⟨t, rfl, hparse⟩ := Option.bind_eq_some_iff.mp hfile
  have hs : Field.Sealed file.fields := sealed_of_problems hproblems
  obtain ⟨hcode, hstdout⟩ := run_eval json hparse hedits
  refine ⟨file, hfile, hcode, hstdout, fun x => ⟨?_, ?_⟩, fun f hf name hname => ?_⟩
  · exact not_error_evaluated hs (fun hl => hl.1 rfl) x
  · exact not_error_evaluated hs (fun hl => hl.2 rfl) x
  · exact (solution_evaluated file edits maxDepth).entry_of_bound
      (Field.bound_iff.mpr ⟨f, hf, hname⟩)

/-- A file with a number at `b` and its half at `a`. -/
def halfFile : Json :=
  .object [("fields", .array [
    .object [("id", .text "b"), ("ref", .text "b"), ("kind", .text "number")],
    .object [("id", .text "a"), ("ref", .text "a"), ("kind", .text "formula"),
      ("expression", .text "=b/2")]])]

theorem ofText?_halfFile : SheetFile.ofText? .standard halfFile.compact =
    some ⟨[.ofNumber "b" none, .ofFormula "a" "=b/2"], []⟩ := by
  have hnesting : halfFile.nesting ≤ Json.nestingLimit := show 3 ≤ 127 by decide
  have hread : JsonCodec.standard.read halfFile.compact = some (halfFile.shown .scaled) :=
    Json.readWith_compact hnesting
  rw [SheetFile.ofText?, hread]
  rfl

/-- The half of a text is an error, but neither of the two. -/
theorem eval_of_check_text :
    (run (.check "sheet.json") (some halfFile.compact)).code = 0 ∧
      ∃ file, SheetFile.ofText? .standard halfFile.compact = some file ∧
        ∀ x, (evaluated file [("b", .text "x")] none).get? x ≠ some (.error .unresolved) ∧
          (evaluated file [("b", .text "x")] none).get? x ≠ some (.error .cycle) := by
  have hcheck : (run (.check "sheet.json") (some halfFile.compact)).code = 0 :=
    run_check_iff.mpr ⟨_, (Option.bind_some ..).trans ofText?_halfFile, by decide +kernel⟩
  have hedits : ["b=x"].mapM (assignment .standard) = .ok [("b", .text "x")] := rfl
  obtain ⟨file, hfile, -, -, herrors, -⟩ := eval_of_check true none hcheck hedits
  rw [Option.bind_some] at hfile
  exact ⟨hcheck, file, hfile, herrors⟩

end Command

end Worksheet
