import Worksheet.Formula.Eval
import Worksheet.Proofs.Formula.Gathering

/- Worksheet Locality — what an expression is evaluated from.

   The entry of an expression depends on the context only through the entries at
   the names that occur in it. The functions and the nesting limit stay the same
   on both sides, so a name without an entry counts like any other entry. -/
namespace Worksheet.Expr

/-- Two contexts have the same entry, or none, at each of some names. -/
def Agree (c d : Context) (names : List String) : Prop := ∀ n ∈ names, c.get? n = d.get? n

variable {c d : Context} {functions : Library} {maxDepth : Nat}

theorem resolve_congr {name : String} (h : c.get? name = d.get? name) :
    Environment.resolve ⟨c, functions, maxDepth⟩ name =
      Environment.resolve ⟨d, functions, maxDepth⟩ name := by
  rw [Environment.resolve, Environment.resolve, h]

mutual
/-- Evaluation reads the context at the names of the expression only. -/
theorem evalAt_congr (e : Expr) (level : Nat) (h : Agree c d e.names) :
    e.evalAt ⟨c, functions, maxDepth⟩ level = e.evalAt ⟨d, functions, maxDepth⟩ level := by
  cases e with
  | number x => rfl
  | text s => rfl
  | bool b => rfl
  | ref name =>
    rw [evalAt, evalAt]
    simp only [resolve_congr (h name (List.mem_singleton.mpr rfl))]
  | binary op l r =>
    have hl := evalAt_congr l (level + 1) fun n hn => h n (List.mem_append_left _ hn)
    have hr := evalAt_congr r (level + 1) fun n hn => h n (List.mem_append_right _ hn)
    rw [evalAt, evalAt, hl, hr]
  | unary op e =>
    rw [evalAt, evalAt, evalAt_congr e (level + 1) h]
  | percent e =>
    rw [evalAt, evalAt, evalAt_congr e (level + 1) h]
  | call name args =>
    rw [evalAt, evalAt, evalAll_congr args (level + 1) h]

/-- The arguments of a call are read at their names only. -/
theorem evalAll_congr (es : List Expr) (level : Nat) (h : Agree c d (namesAll es)) :
    evalAll ⟨c, functions, maxDepth⟩ level es = evalAll ⟨d, functions, maxDepth⟩ level es := by
  cases es with
  | nil => rfl
  | cons e es =>
    have he := evalAt_congr e level fun n hn => h n (List.mem_append_left _ hn)
    have hes := evalAll_congr es level fun n hn => h n (List.mem_append_right _ hn)
    rw [evalAll, evalAll, he, hes]
end

/-- Contexts that agree on what an expression reads give it the same entry. -/
theorem eval_congr {e : Expr} (h : ∀ n ∈ e.references, c.get? n = d.get? n) :
    e.eval ⟨c, functions, maxDepth⟩ = e.eval ⟨d, functions, maxDepth⟩ :=
  evalAt_congr e 0 fun n hn => h n (mem_references.mpr hn)

end Worksheet.Expr
