import Worksheet.Formula.Expr

/- Worksheet References — the names that an expression reads.

   The names are gathered with a stack of expressions. In each step the expression on top of
   the stack is taken off: the name of a reference is noted unless it was noted before, and
   the parts of any other expression are put on the stack in its place, the last one first,
   so that the first one is on top. A step takes one expression away from all that are on
   the stack or inside what is on it, so the stack becomes empty. -/
namespace Worksheet.Expr

/-- The operands of an operator or the arguments of a call, from left to right. -/
def children : Expr → List Expr
  | number _ | text _ | bool _ | ref _ => []
  | binary _ l r => [l, r]
  | unary _ e => [e]
  | percent e => [e]
  | call _ args => args

mutual
/-- How many expressions an expression is, with those inside it. -/
def size : Expr → Nat
  | number _ | text _ | bool _ | ref _ => 1
  | binary _ l r => l.size + r.size + 1
  | unary _ e => e.size + 1
  | percent e => e.size + 1
  | call _ args => sizeAll args + 1

/-- How many expressions there are in a list, with those inside them. -/
def sizeAll : List Expr → Nat
  | [] => 0
  | e :: es => e.size + sizeAll es
end

theorem size_eq (e : Expr) : e.size = sizeAll e.children + 1 := by
  cases e <;> rfl

theorem sizeAll_append (es fs : List Expr) : sizeAll (es ++ fs) = sizeAll es + sizeAll fs := by
  induction es with
  | nil => simp [sizeAll]
  | cons e es ih => rw [List.cons_append, sizeAll, sizeAll, ih, Nat.add_assoc]

theorem sizeAll_reverse (es : List Expr) : sizeAll es.reverse = sizeAll es := by
  induction es with
  | nil => rfl
  | cons e es ih =>
    rw [List.reverse_cons, sizeAll_append, ih, sizeAll, sizeAll, sizeAll, Nat.add_zero,
      Nat.add_comm]

/-- How far the names of an expression are gathered. -/
structure Gathering where
  /-- The names that are noted, in order. -/
  noted : Array String
  /-- The expressions that are still to look at with what is inside them, the next one
  last. -/
  stack : Array Expr

namespace Gathering

/-- A gathering that has all of an expression before it. -/
def start (e : Expr) : Gathering := ⟨#[], #[e]⟩

/-- Notes a name, unless it was noted before. -/
def note (noted : Array String) (name : String) : Array String :=
  if noted.contains name then noted else noted.push name

/-- Notes the name of a reference. -/
def noteOf (noted : Array String) : Expr → Array String
  | ref name => note noted name
  | _ => noted

/-- Looks at the expression on top of the stack and puts its parts in its place, unless the
stack is empty. -/
def step (w : Gathering) : Option Gathering :=
  w.stack.back?.map fun e => ⟨noteOf w.noted e, w.stack.pop ++ e.children.reverse⟩

/-- How many expressions are still to look at. -/
def pending (w : Gathering) : Nat := sizeAll w.stack.toList

theorem step_eq_some {w next : Gathering} :
    w.step = some next ↔ ∃ (stack : Array Expr) (e : Expr), w.stack = stack.push e ∧
      next = ⟨noteOf w.noted e, stack ++ e.children.reverse⟩ := by
  rw [step, Option.map_eq_some_iff]
  constructor
  · rintro ⟨e, he, rfl⟩
    obtain ⟨stack, hstack⟩ := Array.back?_eq_some_iff.mp he
    exact ⟨stack, e, hstack, by rw [hstack, Array.pop_push]⟩
  · rintro ⟨stack, e, hstack, rfl⟩
    exact ⟨e, by rw [hstack, Array.back?_push], by rw [hstack, Array.pop_push]⟩

/-- A step looks at one of the expressions that are still to look at. -/
theorem pending_step {w next : Gathering} (h : w.step = some next) :
    next.pending + 1 = w.pending := by
  obtain ⟨stack, e, hstack, rfl⟩ := step_eq_some.mp h
  rw [pending, pending, hstack, Array.toList_appendList, Array.toList_push, sizeAll_append,
    sizeAll_append, sizeAll_reverse, sizeAll, sizeAll, size_eq]
  rfl

/-- Steps until the stack is empty. -/
def run (w : Gathering) : Gathering :=
  match _h : w.step with
  | none => w
  | some next => next.run
termination_by w.pending
decreasing_by exact Nat.lt_of_succ_le (Nat.le_of_eq (pending_step _h))

end Gathering

/-- The names that an expression reads, each once, in order of first occurrence. -/
def references (e : Expr) : List String := (Gathering.start e).run.noted.toList

end Worksheet.Expr
