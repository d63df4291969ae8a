import Worksheet.Proofs.Field.Listing
import Worksheet.Proofs.Formula.Values
import Worksheet.Proofs.Sheet.Incremental

/- Worksheet Values of Sheets — what a pass can put into a context.

   A pass puts results of formulas and defaults into a context. So a set of values that
   calculation does not lead out of is not left by any pass over a sheet, if it has all
   that the pass starts from (`Sheet.allValues_run`), nor by a history of edits and passes
   (`Sheet.allValues_edits`). The finite values are such a set: what is finite at the start
   stays finite (`Sheet.finite_passes`). -/
namespace Worksheet

namespace Cell

/-- The numbers that are written in the formula of a cell. -/
def literals : Cell → List Float
  | formula e => e.literals
  | unparsed _ | value _ => []

/-- What a cell starts from is in a set of values: the numbers in its formula, or its
default. -/
structure Starts (p : Value → Prop) (cell : Cell) : Prop where
  literals : ∀ x ∈ cell.literals, p (.number x)
  default : ∀ v, cell = value v → p v

end Cell

/-- The cell of a field starts from the numbers in its formula or from its default. -/
theorem Field.starts {p : Value → Prop} {f : Field} (hliterals : ∀ x ∈ f.cell.literals, p (.number x))
    (hdefault : p (f.default?.getD .null)) : f.cell.Starts p where
  literals := hliterals
  default _ hv := cell_eq_value hv ▸ hdefault

/-- What an edit puts into a context is in a set of values. -/
def Edit.Within (p : Value → Prop) : Edit → Prop
  | put _ e => Yields p e
  | remove _ => True

theorem Edit.Within.apply {p : Value → Prop} {edit : Edit} (h : edit.Within p) {c : Context}
    (hc : c.AllValues p) : (edit.apply c).AllValues p := by
  cases edit with
  | put name e => exact hc.insert h
  | remove name => exact hc.erase name

namespace Sheet

/-- What the passes over a sheet start from is in a set of values, the context apart. -/
structure Starts (p : Value → Prop) (s : Sheet) (functions : Library) : Prop where
  closed : Value.Closed p
  functions : functions.Keeps p
  cells : ∀ name cell, s.cell? name = some cell → cell.Starts p

variable {p : Value → Prop} {s : Sheet} {functions : Library} {c : Calculation}

theorem allValues_record (hc : c.context.AllValues p) (name : String) {e : Entry}
    (he : Yields p e) : (c.record name e).context.AllValues p := hc.insert he

/-- A visit stays in the set. -/
theorem allValues_visit (h : s.Starts p functions) (hc : c.context.AllValues p) (name : String) :
    (s.visit functions c name).context.AllValues p := by
  rw [visit]
  split
  · exact allValues_record hc name (.error _)
  · cases hcell : s.cell? name with
    | none => exact hc
    | some cell =>
      have hstarts := h.cells name cell hcell
      cases cell with
      | formula e =>
        have hwithin : Expr.Within p ⟨c.context, functions, s.maxDepth⟩ :=
          ⟨h.closed, hc, h.functions⟩
        exact allValues_record hc name (Expr.yields_eval hwithin hstarts.literals)
      | unparsed error => exact allValues_record hc name (.error _)
      | value default =>
        simp only
        split
        · exact hc
        · exact hc.set (hstarts.default default rfl)

/-- So does a whole pass. -/
theorem allValues_run (h : s.Starts p functions) {context : Context} (hc : context.AllValues p)
    (names : List String) : (s.run functions names context).context.AllValues p := by
  have hfold : ∀ (names : List String) (c : Calculation), c.context.AllValues p →
      (names.foldl (s.visit functions) c).context.AllValues p := by
    intro names
    induction names with
    | nil => exact fun c hc => hc
    | cons name names ih => exact fun c hc => ih _ (allValues_visit h hc name)
  exact hfold names _ hc

/-- So does a history of edits, each followed by a pass. -/
theorem allValues_edits (h : s.Starts p functions) {context : Context} (hc : context.AllValues p)
    {edits : List Edit} (hedits : ∀ edit ∈ edits, edit.Within p) :
    (edits.foldl (s.afterEdit functions) context).AllValues p := by
  induction edits generalizing context with
  | nil => exact hc
  | cons edit edits ih =>
    obtain ⟨hedit, hedits⟩ := List.forall_mem_cons.mp hedits
    exact ih (allValues_run h (hedit.apply hc) _) hedits

/-- A sheet of a template with the built-in functions. -/
theorem starts_ofFields {fs : List Field} (hp : Value.Closed p)
    (hcells : ∀ b ∈ Field.bindings fs, b.cell.Starts p) (maxDepth : Nat) :
    ((ofFields fs).withMaxDepth maxDepth).Starts p .builtin where
  closed := hp
  functions := Library.keeps_builtin hp
  cells name cell hcell := by
    obtain ⟨b, hb, -, rfl⟩ := cell?_ofFields.mp hcell
    exact hcells b hb

theorem allValues_evaluate {fs : List Field} (hp : Value.Closed p)
    (hcells : ∀ b ∈ Field.bindings fs, b.cell.Starts p) (maxDepth : Nat) {seed : Context}
    (hseed : seed.AllValues p) :
    (((ofFields fs).withMaxDepth maxDepth).evaluate seed).context.AllValues p :=
  allValues_run (starts_ofFields hp hcells maxDepth) hseed _

/-! ## Finite values -/

/-- If the numbers in the bound formulas, the defaults of the other bound fields and the
values of the seed are finite, with the built-in functions, so is every value, at any depth
of its lists, after the full pass and after every history of finite edits that are each
followed by an incremental pass. -/
theorem finite_passes {fs : List Field} {seed : Context}
    (hcells : ∀ b ∈ Field.bindings fs, b.cell.Starts Value.Finite)
    (hseed : seed.AllValues Value.Finite) (maxDepth : Nat) :
    let s := (ofFields fs).withMaxDepth maxDepth
    (s.evaluate seed).context.AllValues Value.Finite ∧
    ∀ edits : List Edit, (∀ edit ∈ edits, edit.Within Value.Finite) →
      (edits.foldl (fun c edit => (s.recalculate edit.name (edit.apply c)).context)
        (s.evaluate seed).context).AllValues Value.Finite := by
  intro s
  have hstarts : s.Starts Value.Finite .builtin :=
    starts_ofFields Value.closed_finite hcells maxDepth
  have hfull : (s.evaluate seed).context.AllValues Value.Finite :=
    allValues_evaluate Value.closed_finite hcells maxDepth hseed
  exact ⟨hfull, fun edits hedits => allValues_edits hstarts hfull hedits⟩

/-- A formula that passes a table on, a number with a default, and a formula that reads
both. -/
def tableTemplate : List Field :=
  [.ofFormula "all" "=IF(1,table)", .ofNumber "rate" (some 2.5),
    .ofFormula "total" "=-SUM(all)/rate*4%"]

/-- The table changes, the rate becomes an error, and the table is removed. -/
theorem finite_passes_table :
    let s := (ofFields tableTemplate).withMaxDepth 8
    let seed := Context.ofValues [("table", .list [.number 1, .list [.number 0.5, .text "x"]])]
    let edits : List Edit := [.put "table" (.ok (.number 7)), .put "rate" (.error .wrongType),
      .remove "table"]
    (s.evaluate seed).context.AllValues Value.Finite ∧
      (edits.foldl (fun c edit => (s.recalculate edit.name (edit.apply c)).context)
        (s.evaluate seed).context).AllValues Value.Finite := by
  intro s seed edits
  have hliterals : ∀ f ∈ Field.flattenAll tableTemplate, ∀ x ∈ f.cell.literals,
      x.isFinite = true := by decide +kernel
  have hdefaults : ∀ f ∈ Field.flattenAll tableTemplate, (f.default?.getD .null).Finite := by
    have hrate : (Value.number 2.5).Finite := Value.finite_number.mpr (by decide +kernel)
    rw [Field.flattenAll_eq]
    exact List.forall_mem_cons.mpr ⟨Value.finite_null, List.forall_mem_cons.mpr
      ⟨hrate, List.forall_mem_singleton.mpr Value.finite_null⟩⟩
  have hcells : ∀ b ∈ Field.bindings tableTemplate, b.cell.Starts Value.Finite := fun b hb =>
    Field.starts
      (fun x hx => Value.finite_number.mpr (hliterals _ (Field.field_mem_flattenAll hb) x hx))
      (hdefaults _ (Field.field_mem_flattenAll hb))
  have hseed : seed.AllValues Value.Finite := by
    refine .ofValues (List.forall_mem_singleton.mpr ?_)
    have hone : (1 : Float).isFinite = true := by decide +kernel
    have hhalf : (0.5 : Float).isFinite = true := by decide +kernel
    simp [Value.finite_list, Value.finite_number, Value.finite_text, hone, hhalf]
  have hedits : ∀ edit ∈ edits, edit.Within Value.Finite := by
    have hseven : (Value.number 7).Finite := Value.finite_number.mpr (by decide +kernel)
    exact List.forall_mem_cons.mpr ⟨.ok hseven, List.forall_mem_cons.mpr
      ⟨.error _, List.forall_mem_singleton.mpr trivial⟩⟩
  have hpasses := finite_passes hcells hseed 8
  exact ⟨hpasses.1, hpasses.2 edits hedits⟩

end Sheet

end Worksheet
