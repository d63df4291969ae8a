import Worksheet.Command.Basic
import Worksheet.Proofs.Context.Json
import Worksheet.Proofs.Sheet.File
import Worksheet.Proofs.Sheet.Solution

/- Worksheet Evaluation from the Command Line — what `eval` prints as JSON.

   The printed text gives back the context that was computed, with each number read as it is
   on its own (`Command.ofText?_stdout_eval`). Values that are read are finite and so are
   calculated numbers; only a number that is written out in a formula can be infinite, and
   nothing is printed in its place. -/
namespace Worksheet.Command

/-- The context that `eval` computes. -/
def evaluated (file : SheetFile) (edits : List (String × Value)) (maxDepth : Option Nat) :
    Context :=
  let seed := edits.foldl (fun c (name, v) => c.set name v) file.seed
  let sheet := (Sheet.ofFields file.fields).withMaxDepth (maxDepth.getD defaultMaxDepth)
  (sheet.evaluate seed).context

variable {p : Value → Prop} {file : SheetFile} {edits : List (String × Value)}
  {maxDepth : Option Nat}

theorem allValues_evaluated (hp : Value.Closed p)
    (hcells : ∀ b ∈ Field.bindings file.fields, b.cell.Starts p)
    (hvalues : ∀ e ∈ file.values, p e.2) (hedits : ∀ e ∈ edits, p e.2) :
    (evaluated file edits maxDepth).AllValues p :=
  Sheet.allValues_evaluate hp hcells _ ((Context.AllValues.ofValues hvalues).foldl_set hedits)

/-- It solves the template for the seed with the assignments. -/
theorem solution_evaluated (file : SheetFile) (edits : List (String × Value))
    (maxDepth : Option Nat) :
    Field.Solution file.fields .builtin (maxDepth.getD defaultMaxDepth)
      (edits.foldl (fun c v => c.set v.1 v.2) file.seed) (evaluated file edits maxDepth) :=
  Sheet.solves_iff_solution.mp
    (Sheet.solves_evaluateWith (Sheet.prepared_withMaxDepth _ _) .builtin _)

/-! ## Assignments -/

variable {codec : JsonCodec} {engine : PatternEngine}

/-- A value that is assigned is finite: a number that is not is no number to the reader. -/
theorem finite_valueOf (hcodec : codec.Lawful) (cs : List Char) : (valueOf codec cs).Finite := by
  rw [valueOf]
  cases h : (codec.read (String.ofList cs)).bind Value.ofJson? with
  | none => exact Value.finite_text _
  | some v =>
    obtain ⟨j, hj, hv⟩ := Option.bind_eq_some_iff.mp h
    exact (Value.read_ofJson? hv).2 (hcodec.fits _ j hj).sound

theorem yields_assignment (hcodec : codec.Lawful) (raw : String) :
    Yields (fun e : String × Value => e.2.Finite) (assignment codec raw) := by
  rw [assignment]
  simp only
  split
  · exact .error _
  · exact .ite (fun _ => .error _) fun _ => .ok (finite_valueOf hcodec _)

/-! ## The printed context -/

variable {path text : String} {raws : List String}

theorem unlines_singleton (line : String) : unlines [line] = line ++ "\n" := by
  simp [unlines, String.join]

/-- A report is printed on standard output, whatever is said beside. -/
theorem outcome_ok {report : Except CommandError Report} {lines : List String}
    (h : ∃ note, report = .ok ⟨lines, note⟩) :
    (outcome report).code = 0 ∧ (outcome report).stdout = unlines lines := by
  obtain ⟨note, rfl⟩ := h
  exact ⟨rfl, rfl⟩

/-- The command succeeds and prints the computed context. -/
theorem run_eval (json : Bool) (hfile : SheetFile.ofText? codec text = some file)
    (hedits : raws.mapM (assignment codec) = .ok edits) :
    let o := runWith codec engine (.eval path raws json maxDepth) (some text)
    o.code = 0 ∧ o.stdout = unlines (contextLines codec json (evaluated file edits maxDepth)) := by
  have hreport : ∃ note, evalReport codec file raws json maxDepth =
      .ok ⟨contextLines codec json (evaluated file edits maxDepth), note⟩ := by
    simp only [evalReport, hedits, evaluated, bind, Except.bind, pure, Except.pure]
    exact ⟨_, rfl⟩
  simp only [runWith, hfile]
  exact outcome_ok hreport

/-- What is read back is the computed context with each number read as it is on its own. -/
theorem ofText?_stdout_eval (hcodec : codec.Lawful)
    (hfile : SheetFile.ofText? codec text = some file)
    (hedits : raws.mapM (assignment codec) = .ok edits)
    (hnesting : ∀ e ∈ edits, e.2.nesting < Json.nestingLimit) :
    Context.ofText? codec (runWith codec engine (.eval path raws true maxDepth) (some text)).stdout =
      (evaluated file edits maxDepth).mapNumbers? (Context.rereadNumber? codec .pretty) := by
  have hvalues : (evaluated file edits maxDepth).AllValues
      fun v => v.nesting ≤ Json.nestingLimit - 1 := by
    refine allValues_evaluated (Value.closed_nesting _) (fun b _ => b.field.starts_nesting _) ?_ ?_
    · intro e he
      exact Nat.le_pred_of_lt ((SheetFile.held_of_ofText? hcodec hfile).values e he).2
    · exact fun e he => Nat.le_pred_of_lt (hnesting e he)
  have hlimit : (evaluated file edits maxDepth).AllValues fun v => v.nesting < Json.nestingLimit :=
    hvalues.mono fun v hv => Nat.lt_of_le_pred (by decide) hv
  rw [(run_eval true hfile hedits).2, contextLines, if_pos rfl, unlines_singleton]
  rw [← Context.ofText?_write hcodec hlimit .pretty, Context.ofText?, Context.ofText?, hcodec.line]

/-- Every number that is written out in a formula of a template is finite. -/
def FiniteLiterals (fs : List Field) : Prop :=
  ∀ b ∈ Field.bindings fs, ∀ x ∈ b.cell.literals, x.isFinite = true

instance (fs : List Field) : Decidable (FiniteLiterals fs) :=
  inferInstanceAs (Decidable (∀ b ∈ Field.bindings fs, ∀ x ∈ b.cell.literals, x.isFinite = true))

theorem finite_evaluated (hcodec : codec.Lawful)
    (hfile : SheetFile.ofText? codec text = some file)
    (hedits : raws.mapM (assignment codec) = .ok edits) (hliterals : FiniteLiterals file.fields) :
    (evaluated file edits maxDepth).AllValues Value.Finite := by
  have hheld := SheetFile.held_of_ofText? hcodec hfile
  refine allValues_evaluated Value.closed_finite ?_ (fun e he => (hheld.values e he).1) ?_
  · intro b hb
    exact Field.starts_finite (hheld.defaults _ (Field.field_mem_flattenAll hb)) (hliterals b hb)
  · exact Yields.mapM (fun raw _ => yields_assignment hcodec raw) edits hedits

/-- For every lawful codec, every file that can be read and all assignments whose lists are
nested less deep than the reader goes: `eval` succeeds, and the text that it prints as JSON
gives back the context that was computed with each number read as it is on its own, which is
nothing for a number that is not finite. If every number that is written out in a formula is
finite, so is every number that was computed, and if the codec keeps the finite ones, the
text gives back the computed context itself. -/
theorem eval_json (hcodec : codec.Lawful) (hfile : SheetFile.ofText? codec text = some file)
    (hedits : raws.mapM (assignment codec) = .ok edits)
    (hnesting : ∀ e ∈ edits, e.2.nesting < Json.nestingLimit) :
    let o := runWith codec engine (.eval path raws true maxDepth) (some text)
    let c := evaluated file edits maxDepth
    o.code = 0 ∧
      Context.ofText? codec o.stdout = c.mapNumbers? (Context.rereadNumber? codec .pretty) ∧
      (∀ x : Float, x.isFinite = false → Context.rereadNumber? codec .pretty x = some .null) ∧
      (FiniteLiterals file.fields → c.AllValues Value.Finite ∧
        (c.AllValues (Value.AllNumbers fun x => x.isFinite = true → codec.Keeps x) →
          Context.ofText? codec o.stdout = some c)) := by
  have hread : Context.ofText? codec
      (runWith codec engine (.eval path raws true maxDepth) (some text)).stdout =
        (evaluated file edits maxDepth).mapNumbers? (Context.rereadNumber? codec .pretty) :=
    ofText?_stdout_eval hcodec hfile hedits hnesting
  refine ⟨(run_eval true hfile hedits).1, hread, fun x => Context.rereadNumber?_of_not_finite hcodec,
    fun hliterals => ?_⟩
  have hfinite : (evaluated file edits maxDepth).AllValues Value.Finite :=
    finite_evaluated hcodec hfile hedits hliterals
  refine ⟨hfinite, fun hkeeps => hread.trans (Context.mapNumbers?_of_keeps ?_)⟩
  exact fun name v hv x hx => hkeeps name v hv x hx (hfinite name v hv x hx)

/-- A file with one formula, at `a`. -/
def formulaFile (expression : String) : Json :=
  .object [("fields", .array [.object [("id", .text "a"), ("ref", .text "a"),
    ("kind", .text "formula"), ("expression", .text expression)]])]

theorem ofText?_formulaFile (hcodec : codec.Lawful) (style : JsonStyle) (expression : String) :
    SheetFile.ofText? codec (codec.write style (formulaFile expression)) =
      some ⟨[Field.ofFormula "a" expression], []⟩ := by
  have hnesting : (formulaFile expression).nesting ≤ Json.nestingLimit :=
    show 3 ≤ 127 by decide
  have hread : codec.read (codec.write style (formulaFile expression)) =
      some ((formulaFile expression).mapDecimals (codec.reread style)) :=
    hcodec.reads style _ (by simp [formulaFile, Json.Writable, Json.WritableAll,
      Json.WritableMembers]) hnesting
  rw [SheetFile.ofText?, hread]
  rfl

section Formula

variable {expression : String} {e : Expr}

theorem bindings_formula : Field.bindings [Field.ofFormula "a" expression] =
    [⟨"a", Field.ofFormula "a" expression⟩] := by
  rw [Field.bindings, Field.named, Field.flattenAll_eq]
  rfl

theorem cell_ofFormula (h : Formula.parse expression = .ok e) :
    (Field.ofFormula "a" expression).cell = .formula e := by
  rw [Field.ofFormula, Field.cell, h]

/-- A number that is written out is calculated as it is, whatever number it is. -/
theorem get?_evaluated_number {x : Float} (h : Formula.parse expression = .ok (.number x)) :
    (evaluated ⟨[Field.ofFormula "a" expression], []⟩ [] none).get? "a" =
      some (.ok (.number x)) := by
  have hb : ⟨"a", Field.ofFormula "a" expression⟩ ∈
      Field.bindings [Field.ofFormula "a" expression] := by
    rw [bindings_formula]
    exact List.mem_singleton_self _
  have hcycle : ¬ Field.OnCycle [Field.ofFormula "a" expression] "a" := by
    intro hcycle
    obtain ⟨n, ⟨b, hb, -, e, hcell, hn⟩, -⟩ := Relation.TransGen.head'_iff.mp hcycle
    rw [bindings_formula] at hb
    obtain rfl := List.mem_singleton.mp hb
    obtain rfl := Cell.formula.inj ((cell_ofFormula h).symm.trans hcell)
    cases Expr.mem_references.mp hn
  have hsolution := solution_evaluated ⟨[Field.ofFormula "a" expression], []⟩ [] none
  have heval := hsolution.formula _ hb hcycle (.number x) (cell_ofFormula h)
  rwa [Expr.eval, Expr.evalAt, if_neg (Nat.not_lt_zero _)] at heval

/-- If the number is not finite, `null` is printed for it. -/
theorem get?_stdout_number (path : String) {x : Float}
    (h : Formula.parse expression = .ok (.number x)) (hx : x.isFinite = false) :
    ∃ c, Context.parse? (run (.eval path [] true none)
      (some (formulaFile expression).compact)).stdout = some c ∧ c.get? "a" = some (.ok .null) := by
  have hedits : ([] : List String).mapM (assignment .standard) = .ok [] := rfl
  have hread : Context.ofText? .standard (run (.eval path [] true none)
      (some (formulaFile expression).compact)).stdout =
        (evaluated ⟨[Field.ofFormula "a" expression], []⟩ [] none).mapNumbers?
          (Context.rereadNumber? .standard .pretty) :=
    ofText?_stdout_eval JsonCodec.lawful_standard
      (ofText?_formulaFile JsonCodec.lawful_standard .compact expression) hedits
      (List.forall_mem_nil _)
  refine ⟨(∅ : Context).set "a" .null, hread.trans (Context.mapNumbers?_eq_some fun name => ?_),
    (Context.get?_insert ..).trans (if_pos rfl)⟩
  rw [Context.set, Context.get?_insert]
  by_cases hname : "a" = name
  · subst hname
    rw [if_pos rfl, get?_evaluated_number h, Option.map_some, Entry.mapNumbers?, Value.mapNumbers?,
      Context.rereadNumber?_of_not_finite JsonCodec.lawful_standard hx]
    rfl
  · have hbound : ¬ Field.Bound [Field.ofFormula "a" expression] name := by
      rintro ⟨b, hb, rfl⟩
      rw [bindings_formula] at hb
      exact hname (congrArg Binding.name (List.mem_singleton.mp hb)).symm
    have hother := (solution_evaluated ⟨[Field.ofFormula "a" expression], []⟩ [] none).other name
      hbound
    have hseed : (SheetFile.seed ⟨[Field.ofFormula "a" expression], []⟩).get? name = none :=
      Context.get?_empty name
    rw [if_neg hname, hother, List.foldl_nil, hseed, Context.get?_empty, Option.map_none,
      Option.map_none]

end Formula

/-- A text and a number are assigned; the number counts, and the formula reads it. -/
theorem eval_json_assignment :
    let file : SheetFile := ⟨[Field.ofFormula "a" "=b/2"], []⟩
    let o := run (.eval "sheet.json" ["b=x", "b=7"] true none)
      (some (formulaFile "=b/2").compact)
    Context.parse? o.stdout = some (evaluated file [("b", .text "x"), ("b", .number 7)] none) := by
  have hliterals : FiniteLiterals [Field.ofFormula "a" "=b/2"] := by decide +kernel
  have hkeeps : (evaluated ⟨[Field.ofFormula "a" "=b/2"], []⟩
      [("b", .text "x"), ("b", .number 7)] none).AllValues
        (Value.AllNumbers fun x => x.isFinite = true → JsonCodec.standard.Keeps x) := by
    decide +kernel
  exact ((eval_json JsonCodec.lawful_standard
    (ofText?_formulaFile JsonCodec.lawful_standard .compact _) rfl (by decide)).2.2.2 hliterals).2
    hkeeps

/-- A number of so many digits that it is greater than all finite ones. -/
def nines : List Char := '=' :: List.replicate 309 '9'

/-- An expression is a number that is not finite. -/
def isInfinite : Expr → Bool
  | .number x => !x.isFinite
  | _ => false

theorem parse_nines : ∃ x : Float,
    Formula.parse (String.ofList nines) = .ok (.number x) ∧ x.isFinite = false := by
  have h : (Formula.parse (String.ofList nines)).toOption.any isInfinite = true := by
    rw [Formula.parse, String.toList_ofList]
    decide +kernel
  cases hparse : Formula.parse (String.ofList nines) with
  | error e =>
    rw [hparse] at h
    cases h
  | ok e =>
    rw [hparse] at h
    cases e with
    | number x => exact ⟨x, rfl, by simpa [isInfinite, Except.toOption] using h⟩
    | _ => cases h

/-- The number is calculated, and `null` is printed for it. -/
theorem eval_json_infinite_literal :
    let file : SheetFile := ⟨[Field.ofFormula "a" (String.ofList nines)], []⟩
    let text := (formulaFile (String.ofList nines)).compact
    let o := run (.eval "sheet.json" [] true none) (some text)
    SheetFile.ofText? .standard text = some file ∧
      (∃ x, (evaluated file [] none).get? "a" = some (.ok (.number x))) ∧
      (∃ c, Context.parse? o.stdout = some c ∧ c.get? "a" = some (.ok .null)) ∧
      Context.parse? o.stdout ≠ some (evaluated file [] none) := by
  obtain ⟨x, hparse, hinfinite⟩ := parse_nines
  generalize String.ofList nines = expression at hparse
  have hnumber := get?_evaluated_number hparse
  obtain ⟨c, hread, hnull⟩ := get?_stdout_number "sheet.json" hparse hinfinite
  refine ⟨ofText?_formulaFile JsonCodec.lawful_standard .compact expression, ⟨x, hnumber⟩,
    ⟨c, hread, hnull⟩, fun heq => ?_⟩
  have hc : c = evaluated ⟨[Field.ofFormula "a" expression], []⟩ [] none :=
    Option.some.inj (hread.symm.trans heq)
  rw [hc, hnumber] at hnull
  cases hnull

end Worksheet.Command
