import Worksheet.Formula.Eval
import Worksheet.Proofs.Formula.Gathering
import Worksheet.Proofs.Function.Library

/- Worksheet Error Traces — where the error of an expression comes from.

   Operators and calls look at all their operands, whatever the function: an expression
   has a value only if every name in it has one (`Expr.eval_strict`). If it has none, the
   error is one that arises in the evaluation itself, or it is the error of a name that
   occurs in it (`Expr.eval_traced`); so a missing name and a cycle show only where they
   are read. -/
namespace Worksheet

/-- The functions of a library make local errors only. -/
def Library.Local (l : Library) : Prop :=
  ∀ name f, l.get? name = some f → ∀ args, Fails CellError.IsLocal (f.apply args)

theorem Library.local_builtin : builtin.Local := fun _ _ h => fails_builtin h

namespace Environment

/-- Each of some names has a value. -/
def Valued (env : Environment) (names : List String) : Prop :=
  ∀ n ∈ names, ∃ v, env.resolve n = .ok v

/-- An error is local, or it is that of one of some names. -/
def Traced (env : Environment) (names : List String) (e : CellError) : Prop :=
  e.IsLocal ∨ ∃ n ∈ names, env.resolve n = .error e

variable {env : Environment} {names names' : List String} {e : CellError}

theorem Valued.append (h : env.Valued names) (h' : env.Valued names') :
    env.Valued (names ++ names') := List.forall_mem_append.mpr ⟨h, h'⟩

theorem Traced.left (h : env.Traced names e) : env.Traced (names ++ names') e :=
  h.imp_right fun ⟨n, hn, he⟩ => ⟨n, List.mem_append_left _ hn, he⟩

theorem Traced.right (h : env.Traced names' e) : env.Traced (names ++ names') e :=
  h.imp_right fun ⟨n, hn, he⟩ => ⟨n, List.mem_append_right _ hn, he⟩

end Environment

open CellError (isLocal_generic isLocal_divisionByZero isLocal_wrongType)

namespace Expr

variable {env : Environment}

/-! ## Values -/

/-- A call has a value only if its arguments have. -/
theorem yields_applyCall {p : Prop} {functions : Library} {name : String} {count : Nat}
    {args : Except CellError (List Value)} (hargs : Yields (fun _ => p) args) :
    Yields (fun _ => p) (applyCall functions name count args) := by
  rw [applyCall]
  split
  · exact .error _
  · refine .ite (fun _ => .error _) fun _ => hargs.bind fun _ hp => .always fun _ => hp

mutual
theorem yields_evalAt (e : Expr) (level : Nat) :
    Yields (fun _ => env.Valued e.names) (e.evalAt env level) := by
  rw [evalAt.eq_def]
  refine .ite (fun _ => .error _) fun _ => ?_
  cases e with
  | number x => exact .ok (List.forall_mem_nil _)
  | text s => exact .ok (List.forall_mem_nil _)
  | bool b => exact .ok (List.forall_mem_nil _)
  | ref name => exact fun v hv => List.forall_mem_singleton.mpr ⟨v, hv⟩
  | binary op l r =>
    exact (yields_evalAt l (level + 1)).bind fun _ hl =>
      (yields_evalAt r (level + 1)).bind fun _ hr => .always fun _ => hl.append hr
  | unary op e => exact (yields_evalAt e (level + 1)).bind fun _ he => .always fun _ => he
  | percent e => exact (yields_evalAt e (level + 1)).bind fun _ he => .always fun _ => he
  | call name args => exact yields_applyCall (yields_evalAll args (level + 1))

theorem yields_evalAll (es : List Expr) (level : Nat) :
    Yields (fun _ => env.Valued (namesAll es)) (evalAll env level es) := by
  cases es with
  | nil => exact .ok (List.forall_mem_nil _)
  | cons e es =>
    exact (yields_evalAt e level).bind fun _ he =>
      (yields_evalAll es level).bind fun _ hes => .ok (he.append hes)
end

/-- If an expression has a value, every name that it reads has one. -/
theorem eval_strict {e : Expr} {v : Value} (h : e.eval env = .ok v) {n : String}
    (hn : n ∈ e.references) : ∃ w, env.resolve n = .ok w :=
  yields_evalAt e 0 v h n (mem_references.mp hn)

/-! ## Errors -/

theorem fails_operand (v : Value) : Fails CellError.IsLocal (operand v) := by
  unfold operand
  split
  · exact .ok _
  · exact .error isLocal_wrongType

theorem fails_applyBinary (op : BinaryOp) (x y : Float) :
    Fails CellError.IsLocal (applyBinary op x y) := by
  cases op with
  | div => exact .ite (fun _ => .error isLocal_divisionByZero) fun _ => fails_finite _
  | add => exact fails_finite _
  | sub => exact fails_finite _
  | mul => exact fails_finite _
  | pow => exact fails_finite _

theorem fails_applyCall (hfunctions : env.functions.Local) {names : List String} {name : String}
    {count : Nat} {args : Except CellError (List Value)} (hargs : Fails (env.Traced names) args) :
    Fails (env.Traced names) (applyCall env.functions name count args) := by
  rw [applyCall]
  split
  · exact .error (.inl isLocal_generic)
  · rename_i f hf
    refine .ite (fun _ => .error (.inl isLocal_generic)) fun _ => hargs.bind fun vs => ?_
    exact .ite (fun _ => (hfunctions name f hf vs).mono fun _ => .inl) fun _ =>
      .error (.inl isLocal_generic)

mutual
theorem fails_evalAt (hfunctions : env.functions.Local) (e : Expr) (level : Nat) :
    Fails (env.Traced e.names) (e.evalAt env level) := by
  rw [evalAt.eq_def]
  refine .ite (fun _ => .error (.inl isLocal_generic)) fun _ => ?_
  cases e with
  | number x => exact .ok _
  | text s => exact .ok _
  | bool b => exact .ok _
  | ref name => exact fun err herr => .inr ⟨name, List.mem_singleton.mpr rfl, herr⟩
  | binary op l r =>
    refine ((fails_evalAt hfunctions l (level + 1)).mono fun _ => .left).bind fun v =>
      ((fails_evalAt hfunctions r (level + 1)).mono fun _ => .right).bind fun w => ?_
    exact .mono ((fails_operand v).bind fun x => (fails_operand w).bind fun y =>
      fails_applyBinary op x y) fun _ => .inl
  | unary op e =>
    refine (fails_evalAt hfunctions e (level + 1)).bind fun v => ?_
    exact .mono ((fails_operand v).bind fun _ => .ok _) fun _ => .inl
  | percent e =>
    refine (fails_evalAt hfunctions e (level + 1)).bind fun v => ?_
    exact .mono ((fails_operand v).bind fun _ => .ok _) fun _ => .inl
  | call name args => exact fails_applyCall hfunctions (fails_evalAll hfunctions args (level + 1))

theorem fails_evalAll (hfunctions : env.functions.Local) (es : List Expr) (level : Nat) :
    Fails (env.Traced (namesAll es)) (evalAll env level es) := by
  cases es with
  | nil => exact .ok _
  | cons e es =>
    exact ((fails_evalAt hfunctions e level).mono fun _ => .left).bind fun _ =>
      ((fails_evalAll hfunctions es level).mono fun _ => .right).bind fun _ => .ok _
end

/-- An error of an expression that is not local is the error of a name that it reads. -/
theorem eval_traced {e : Expr} {err : CellError} (h : e.eval env = .error err)
    (hfunctions : env.functions.Local) (hlocal : ¬ err.IsLocal) :
    ∃ n ∈ e.references, env.resolve n = .error err := by
  obtain ⟨n, hn, herr⟩ := (fails_evalAt hfunctions e 0 err h).resolve_left hlocal
  exact ⟨n, mem_references.mpr hn, herr⟩

end Expr

end Worksheet
