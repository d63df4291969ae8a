import Mathlib.Data.List.Induction
import Worksheet.Formula.References

/- Worksheet Gathering Theory — the names that are gathered from an expression.

   What is noted and what the stack stands for come to the same names throughout
   (`Gathering.total_step`): a reference that is taken off the stack stands for its name, and
   any other expression for its parts. The stack becomes empty, and it stands for nothing
   then. So the references of an expression are its names from left to right without those
   that come again (`references_eq`). -/
namespace Worksheet.Expr

mutual
/-- The names in an expression from left to right, as often as they occur. -/
def names : Expr → List String
  | number _ | text _ | bool _ => []
  | ref name => [name]
  | binary _ l r => l.names ++ r.names
  | unary _ e => e.names
  | percent e => e.names
  | call _ args => namesAll args

/-- The names in some expressions from left to right. -/
def namesAll : List Expr → List String
  | [] => []
  | e :: es => e.names ++ namesAll es
end

theorem namesAll_eq_flatMap (es : List Expr) : namesAll es = es.flatMap names := by
  induction es with
  | nil => rfl
  | cons e es ih => rw [namesAll, ih, List.flatMap_cons]

theorem namesAll_append (es fs : List Expr) : namesAll (es ++ fs) = namesAll es ++ namesAll fs := by
  simp only [namesAll_eq_flatMap, List.flatMap_append]

theorem eraseDups_concat (l : List String) (a : String) :
    (l ++ [a]).eraseDups = if a ∈ l then l.eraseDups else l.eraseDups ++ [a] := by
  rw [List.eraseDups_append]
  split <;> simp [List.removeAll, List.eraseDups_cons, *]

/-! ## The gathering -/

namespace Gathering

variable {w next : Gathering}

/-- The names that are noted, and after them those that the stack stands for. -/
def total (w : Gathering) : Array String := (namesAll w.stack.toList.reverse).foldl note w.noted

/-- The names of an expression are noted by its own step and the names of its parts. -/
theorem foldl_names (noted : Array String) (e : Expr) :
    e.names.foldl note noted = (namesAll e.children).foldl note (noteOf noted e) := by
  cases e <;> simp [names, namesAll, children, noteOf]

/-- An expression that is taken off the stack is followed by what is put in its place. -/
theorem total_step (h : w.step = some next) : next.total = w.total := by
  obtain ⟨stack, e, hstack, rfl⟩ := step_eq_some.mp h
  have hbefore : namesAll w.stack.toList.reverse = e.names ++ namesAll stack.toList.reverse := by
    rw [hstack, Array.toList_push, List.reverse_concat, namesAll]
  -- put on the stack in reverse, the parts come off it in order
  have hafter : namesAll (stack ++ e.children.reverse).toList.reverse =
      namesAll e.children ++ namesAll stack.toList.reverse := by
    rw [Array.toList_appendList, List.reverse_append, List.reverse_reverse, namesAll_append]
  rw [total, total, hbefore, hafter, List.foldl_append, List.foldl_append, foldl_names]

/-- What is noted at the end is what the gathering came to before it. -/
theorem noted_run (w : Gathering) : w.run.noted = w.total := by
  induction w using run.induct with
  | case1 w hend =>
    have hstack : w.stack = #[] := Array.back?_eq_none_iff.mp (Option.map_eq_none_iff.mp hend)
    rw [run, hend, total, hstack]
    rfl
  | case2 w next hstep ih =>
    rw [run, hstep]
    exact ih.trans (total_step hstep)

/-- Noting some names in turn leaves each of them once. -/
theorem toList_foldl_note (l : List String) : (l.foldl note #[]).toList = l.eraseDups := by
  induction l using List.reverseRecOn with
  | nil => rfl
  | append_singleton l a ih =>
    rw [List.foldl_append, List.foldl_cons, List.foldl_nil, note, eraseDups_concat]
    have hmem : (l.foldl note #[]).contains a = true ↔ a ∈ l := by
      rw [Array.contains_iff_mem, ← Array.mem_toList_iff, ih, List.mem_eraseDups]
    by_cases ha : a ∈ l
    · rw [if_pos (hmem.mpr ha), if_pos ha, ih]
    · rw [if_neg (mt hmem.mp ha), if_neg ha, Array.toList_push, ih]

end Gathering

/-- The references of an expression are its names without those that come again. -/
theorem references_eq (e : Expr) : e.references = e.names.eraseDups := by
  rw [references, Gathering.noted_run, Gathering.total, ← Gathering.toList_foldl_note]
  simp [Gathering.start, namesAll]

theorem mem_references {e : Expr} {name : String} : name ∈ e.references ↔ name ∈ e.names := by
  rw [references_eq, List.mem_eraseDups]

end Worksheet.Expr
