import Worksheet.Proofs.Command.Eval
import Worksheet.Proofs.Sheet.Commutation

/- Worksheet Edits from the Command Line — `recalc` prints a part of what `eval` prints.

   `recalc` makes a full pass over the values of the file and then one incremental pass for
   each assignment; `eval` puts all assigned values into the seed and makes one full pass.
   Both come to the same context (`Command.context_edited`), and `recalc` prints the entries
   at the names that some assignment affects (`Command.get?_recalculated`). What it leaves
   out is what the assignments leave as it was (`Command.get?_evaluated_of_unchanged`). -/
namespace Worksheet.Command

/-- What `recalc` comes to, one assignment after the other. -/
def edited (file : SheetFile) (edits : List (String × Value)) : Edited :=
  let sheet := Sheet.ofFields file.fields
  edits.foldl (fun e (name, v) => edit sheet e name v)
    ⟨(sheet.evaluate file.seed).context, ∅, 0⟩

/-- The context that `recalc` prints. -/
def recalculated (file : SheetFile) (edits : List (String × Value)) : Context :=
  (edited file edits).context.restrict (edited file edits).affected.contains

variable {file : SheetFile} {edits : List (String × Value)}

/-! ## Assignments as edits -/

/-- The edits that some assignments make. -/
def puts (edits : List (String × Value)) : List Edit := edits.map fun v => .put v.1 (.ok v.2)

theorem foldl_set (edits : List (String × Value)) (c : Context) :
    edits.foldl (fun c (name, v) => c.set name v) c = (puts edits).foldl Edit.apply c := by
  rw [puts, List.foldl_map]
  rfl

/-- Every assignment makes one incremental pass and adds the names that it affects. -/
theorem foldl_edit (s : Sheet) (edits : List (String × Value)) (e : Edited) :
    let after := edits.foldl (fun e (name, v) => edit s e name v) e
    after.context = (puts edits).foldl (s.afterEdit .builtin) e.context ∧
      ∀ x, x ∈ after.affected ↔
        x ∈ e.affected ∨ ∃ edit ∈ puts edits, x ∈ s.affected edit.name := by
  induction edits generalizing e with
  | nil => simp [puts]
  | cons v edits ih =>
    obtain ⟨hcontext, haffected⟩ := ih (edit s e v.1 v.2)
    refine ⟨hcontext, fun x => ?_⟩
    have hstep : x ∈ (edit s e v.1 v.2).affected ↔ x ∈ e.affected ∨ x ∈ s.affected v.1 :=
      NameSet.mem_insertMany.trans or_comm
    have hputs : puts (v :: edits) = .put v.1 (.ok v.2) :: puts edits := rfl
    rw [List.foldl_cons, haffected, hstep, or_assoc, hputs, List.exists_mem_cons_iff]
    exact Iff.rfl

/-! ## What is printed -/

/-- A sheet with the nesting limit that `eval` takes if none is given. -/
theorem evaluated_eq (file : SheetFile) (edits : List (String × Value)) :
    evaluated file edits none =
      ((Sheet.ofFields file.fields).evaluate ((puts edits).foldl Edit.apply file.seed)).context := by
  rw [evaluated, Option.getD_none, Sheet.withMaxDepth_ofFields, foldl_set]

/-- The passes one by one come to what one full pass comes to. -/
theorem context_edited (file : SheetFile) (edits : List (String × Value)) :
    (edited file edits).context = evaluated file edits none := by
  rw [evaluated_eq]
  exact (foldl_edit _ edits _).1.trans
    (Sheet.edits_eq_evaluateWith Sheet.prepared_ofFields .builtin file.seed (puts edits))

theorem contains_affected_edited {x : String} :
    (edited file edits).affected.contains x = true ↔
      ∃ edit ∈ puts edits, x ∈ (Sheet.ofFields file.fields).affected edit.name := by
  rw [Std.ExtTreeSet.contains_iff_mem, edited, (foldl_edit _ edits _).2 x]
  exact or_iff_right Std.ExtTreeSet.not_mem_empty

/-- What is printed is the entry of `eval`, at the affected names and nowhere else. -/
theorem get?_recalculated (x : String) :
    (recalculated file edits).get? x =
      if (edited file edits).affected.contains x then (evaluated file edits none).get? x
      else none := by
  rw [recalculated, Context.get?_restrict, context_edited]

/-- A name that is not printed has the entry that it has without any assignment. -/
theorem get?_evaluated_of_unchanged {x : String} (hx : (recalculated file edits).get? x = none)
    (hname : ∀ v ∈ edits, v.1 ≠ x) :
    (evaluated file edits none).get? x = (evaluated file [] none).get? x := by
  have hprepared : (Sheet.ofFields file.fields).Prepared := Sheet.prepared_ofFields
  have hunedited : ∀ edit ∈ puts edits, edit.name ≠ x := by
    intro edit hedit
    obtain ⟨v, hv, rfl⟩ := List.mem_map.mp hedit
    exact hname v hv
  have hbefore : evaluated file [] none =
      ((Sheet.ofFields file.fields).evaluate file.seed).context := evaluated_eq file []
  rw [get?_recalculated] at hx
  split at hx
  · -- an affected name without an entry: nothing is due there, with the edits or without
    have hsolves := Sheet.solves_evaluateWith hprepared .builtin
    have hafter := hsolves ((puts edits).foldl Edit.apply file.seed) x
    rw [Edit.get?_foldl_apply_of_ne hunedited, ← Sheet.evaluate, ← evaluated_eq, hx] at hafter
    rw [hx, hbefore, Sheet.evaluate, hsolves file.seed x, Sheet.due_eq_none hafter.symm]
  · -- a name that no pass visits keeps what the first pass left there
    rename_i haffected
    have hout : ¬ ∃ edit ∈ puts edits, x ∈ (Sheet.ofFields file.fields).affected edit.name := by
      rwa [← contains_affected_edited]
    have hsettled := Sheet.settled_edits hprepared .builtin (puts edits)
      ((Sheet.ofFields file.fields).evaluate file.seed).context x
    rw [evaluated_eq, Sheet.evaluate,
      ← Sheet.edits_eq_evaluateWith hprepared .builtin file.seed (puts edits), ← Sheet.evaluate,
      hsettled.2 hout, Edit.get?_foldl_apply_of_ne hunedited, hbefore]

/-! ## Both commands -/

variable {codec : JsonCodec} {engine : PatternEngine} {path : String} {raws : List String}
  {json : Bool}

/-- `recalc` succeeds and prints its context. -/
theorem run_recalc {text : String} (hfile : SheetFile.ofText? codec text = some file)
    (hedits : raws.mapM (assignment codec) = .ok edits) :
    let o := runWith codec engine (.recalc path raws json) (some text)
    o.code = 0 ∧ o.stdout = unlines (contextLines codec json (recalculated file edits)) := by
  have hreport : ∃ note, recalcReport codec file raws json =
      .ok ⟨contextLines codec json (recalculated file edits), note⟩ := by
    simp only [recalcReport, hedits, recalculated, edited, bind, Except.bind, pure, Except.pure]
    exact ⟨_, rfl⟩
  simp only [runWith, hfile]
  exact outcome_ok hreport

/-- Both commands fail for one reason, or the file and the assignments can be read. -/
theorem run_cases (codec : JsonCodec) (engine : PatternEngine) (path : String)
    (text : Option String) (raws : List String) (json : Bool) :
    (∃ e, runWith codec engine (.recalc path raws json) text = failure [] e ∧
      runWith codec engine (.eval path raws json none) text = failure [] e) ∨
    ∃ t file edits, text = some t ∧ SheetFile.ofText? codec t = some file ∧
      raws.mapM (assignment codec) = .ok edits := by
  cases text with
  | none => exact .inl ⟨.unreadable path, rfl, rfl⟩
  | some t =>
    cases hfile : SheetFile.ofText? codec t with
    | none =>
      refine .inl ⟨.malformed path, ?_, ?_⟩ <;>
        simp only [runWith, hfile, Command.file]
    | some file =>
      cases hedits : raws.mapM (assignment codec) with
      | error e =>
        refine .inl ⟨e, ?_, ?_⟩ <;>
          simp only [runWith, hfile, runOn, recalcReport, evalReport, hedits, bind, Except.bind,
            outcome]
      | ok edits => exact .inr ⟨t, file, edits, rfl, hfile, rfl⟩

/-- Whatever the codec and the engine for patterns do, for every file and all assignments,
either both commands fail, alike and with nothing on standard output, or both succeed. Then
every entry that `recalc` prints is the one that `eval` prints for the same assignments, and
every other name that is not assigned to has the same entry with the assignments and
without. -/
theorem recalc_agrees_with_eval (codec : JsonCodec) (engine : PatternEngine) (path : String)
    (text : Option String) (raws : List String) (json : Bool) :
    let recalc := runWith codec engine (.recalc path raws json) text
    let eval := runWith codec engine (.eval path raws json none) text
    let before := runWith codec engine (.eval path [] json none) text
    (recalc = eval ∧ recalc.code ≠ 0 ∧ recalc.stdout = "") ∨
    ∃ file edits, text.bind (SheetFile.ofText? codec) = some file ∧
      raws.mapM (assignment codec) = .ok edits ∧
      recalc.code = 0 ∧
      recalc.stdout = unlines (contextLines codec json (recalculated file edits)) ∧
      eval.code = 0 ∧ eval.stdout = unlines (contextLines codec json (evaluated file edits none)) ∧
      before.code = 0 ∧ before.stdout = unlines (contextLines codec json (evaluated file [] none)) ∧
      (∀ x e, (recalculated file edits).get? x = some e →
        (evaluated file edits none).get? x = some e) ∧
      ∀ x, (recalculated file edits).get? x = none → (∀ v ∈ edits, v.1 ≠ x) →
        (evaluated file edits none).get? x = (evaluated file [] none).get? x := by
  intro recalc eval before
  rcases run_cases codec engine path text raws json with
    ⟨e, hrecalc, heval⟩ | ⟨t, file, edits, rfl, hfile, hedits⟩
  · refine .inl ⟨hrecalc.trans heval.symm, ?_, ?_⟩
    · rw [show recalc = failure [] e from hrecalc, failure]
      exact Nat.one_ne_zero
    · rw [show recalc = failure [] e from hrecalc]
      rfl
  · have hrecalc : recalc.code = 0 ∧
        recalc.stdout = unlines (contextLines codec json (recalculated file edits)) :=
      run_recalc hfile hedits
    have heval : eval.code = 0 ∧
        eval.stdout = unlines (contextLines codec json (evaluated file edits none)) :=
      run_eval json hfile hedits
    have hbefore : before.code = 0 ∧
        before.stdout = unlines (contextLines codec json (evaluated file [] none)) :=
      run_eval json hfile rfl
    refine .inr ⟨file, edits, hfile, hedits, hrecalc.1, hrecalc.2, heval.1, heval.2, hbefore.1,
      hbefore.2, fun x e hx => ?_, fun x => get?_evaluated_of_unchanged⟩
    rw [get?_recalculated] at hx
    split at hx
    · exact hx
    · cases hx

end Worksheet.Command
