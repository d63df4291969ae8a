import Worksheet.Formula.Eval
import Worksheet.Proofs.Context.Values
import Worksheet.Proofs.Function.Closure

/- Worksheet Values of Expressions — what an expression can have as its value.

   If the values that are read and the numbers that are written in an expression are in a
   set of values that calculation does not lead out of, its value is in that set
   (`Expr.yields_eval`). -/
namespace Worksheet.Expr

mutual
/-- The numbers that are written in an expression, from left to right. -/
def literals : Expr → List Float
  | number x => [x]
  | text _ | bool _ | ref _ => []
  | binary _ l r => l.literals ++ r.literals
  | unary _ e => e.literals
  | percent e => e.literals
  | call _ args => literalsAll args

def literalsAll : List Expr → List Float
  | [] => []
  | e :: es => e.literals ++ literalsAll es
end

variable {p : Value → Prop} {env : Environment}

theorem yields_resolve (hvalues : env.values.AllValues p) (name : String) :
    Yields p (env.resolve name) := by
  intro v hv
  rw [Environment.resolve] at hv
  cases h : env.values.get? name with
  | none => exact nomatch h ▸ hv
  | some e =>
    rw [h] at hv
    exact hvalues name v (h.trans (congrArg some hv))

theorem yields_operand {v : Value} (hv : p v) : Yields (fun x => p (.number x)) (operand v) := by
  unfold operand
  split
  · exact .ok hv
  · exact .error _

theorem yields_applyBinary (hp : Value.Closed p) (op : BinaryOp) (x y : Float) :
    Yields p (applyBinary op x y) := by
  cases op with
  | div => exact .ite (fun _ => .error _) fun _ => yields_finite hp _
  | _ => exact yields_finite hp _

theorem value_applyPrefix (hp : Value.Closed p) (op : PrefixOp) {x : Float} (hx : p (.number x)) :
    p (.number (applyPrefix op x)) := by
  cases op with
  | plus => exact hx
  | negate => exact hp.neg x hx

theorem yields_call (hfunctions : env.functions.Keeps p) {name : String} {count : Nat}
    {args : Except CellError (List Value)} (hargs : Yields (∀ v ∈ ·, p v) args) :
    Yields p (applyCall env.functions name count args) := by
  rw [applyCall]
  split
  · exact .error _
  · rename_i f hf
    refine .ite (fun _ => .error _) fun _ => hargs.bind fun vs hvs => ?_
    exact .ite (fun _ => hfunctions name f hf vs hvs) fun _ => .error _

/-- What an expression starts from is in a set of values. -/
structure Within (p : Value → Prop) (env : Environment) : Prop where
  closed : Value.Closed p
  values : env.values.AllValues p
  functions : env.functions.Keeps p

mutual
theorem value_evalAt (h : Within p env) (e : Expr) (level : Nat)
    (hnumbers : ∀ x ∈ e.literals, p (.number x)) : Yields p (e.evalAt env level) := by
  rw [evalAt.eq_def]
  refine .ite (fun _ => .error _) fun _ => ?_
  cases e with
  | number x => exact .ok (hnumbers x (List.mem_singleton.mpr rfl))
  | text s => exact .ok (h.closed.text s)
  | bool b => exact .ok (h.closed.bool b)
  | ref name => exact yields_resolve h.values name
  | binary op l r =>
    obtain ⟨hl, hr⟩ := List.forall_mem_append.mp hnumbers
    exact (value_evalAt h l (level + 1) hl).bind fun v _ =>
      (value_evalAt h r (level + 1) hr).bind fun w _ => (Yields.always fun _ => trivial).bind
        fun x _ => (Yields.always fun _ => trivial).bind fun y _ =>
          yields_applyBinary h.closed op x y
  | unary op e =>
    exact (value_evalAt h e (level + 1) hnumbers).bind fun v hv =>
      (yields_operand hv).bind fun x hx => .ok (value_applyPrefix h.closed op hx)
  | percent e =>
    exact (value_evalAt h e (level + 1) hnumbers).bind fun v hv =>
      (yields_operand hv).bind fun x hx => .ok (h.closed.percent x hx)
  | call name args => exact yields_call h.functions (value_evalAll h args (level + 1) hnumbers)

theorem value_evalAll (h : Within p env) (es : List Expr) (level : Nat)
    (hnumbers : ∀ x ∈ literalsAll es, p (.number x)) :
    Yields (∀ v ∈ ·, p v) (evalAll env level es) := by
  cases es with
  | nil => exact .ok (List.forall_mem_nil p)
  | cons e es =>
    obtain ⟨he, hes⟩ := List.forall_mem_append.mp hnumbers
    exact (value_evalAt h e level he).bind fun v hv =>
      (value_evalAll h es level hes).bind fun vs hvs => .ok (List.forall_mem_cons.mpr ⟨hv, hvs⟩)
end

/-- The value of an expression is in a set that has all it starts from. -/
theorem yields_eval (h : Within p env) {e : Expr} (hnumbers : ∀ x ∈ e.literals, p (.number x)) :
    Yields p (e.eval env) := value_evalAt h e 0 hnumbers

end Worksheet.Expr
