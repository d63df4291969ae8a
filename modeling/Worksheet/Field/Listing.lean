import Worksheet.Field.Basic

/- Worksheet Field Listing — the fields of a template in one list.

   The listing keeps a stack of fields. In each step the field on top of the stack
   is listed, and the fields inside it are put on the stack in its place, the last
   one first, so that the first one is on top. A step takes one field away from all
   that are on the stack or inside what is on it, so the stack becomes empty. -/
namespace Worksheet.Field

mutual
/-- How many fields a field is, with those inside it. -/
def size : Field → Nat
  | item _ _ => 1
  | frame _ children => sizeAll children + 1

/-- How many fields there are in a list, with those inside them. -/
def sizeAll : List Field → Nat
  | [] => 0
  | f :: fs => f.size + sizeAll fs
end

theorem size_eq (f : Field) : f.size = sizeAll f.children + 1 := by
  cases f <;> rfl

theorem sizeAll_append (fs gs : List Field) : sizeAll (fs ++ gs) = sizeAll fs + sizeAll gs := by
  induction fs with
  | nil => simp [sizeAll]
  | cons f fs ih => rw [List.cons_append, sizeAll, sizeAll, ih, Nat.add_assoc]

theorem sizeAll_reverse (fs : List Field) : sizeAll fs.reverse = sizeAll fs := by
  induction fs with
  | nil => rfl
  | cons f fs ih =>
    rw [List.reverse_cons, sizeAll_append, ih, sizeAll, sizeAll, sizeAll, Nat.add_zero,
      Nat.add_comm]

/-- How far the listing of a template has come. -/
structure Listing where
  /-- The fields that are listed, in order. -/
  listed : Array Field
  /-- The fields that are still to list with what is inside them, the next one last. -/
  stack : Array Field

namespace Listing

/-- A listing that has all of a template before it. -/
def start (fs : List Field) : Listing := ⟨#[], fs.reverse.toArray⟩

/-- Lists the field on top of the stack and puts the fields inside it in its place,
unless the stack is empty. -/
def step (l : Listing) : Option Listing :=
  l.stack.back?.map fun f => ⟨l.listed.push f, l.stack.pop ++ f.children.reverse⟩

/-- How many fields are still to list. -/
def pending (l : Listing) : Nat := sizeAll l.stack.toList

theorem step_eq_some {l next : Listing} :
    l.step = some next ↔ ∃ (stack : Array Field) (f : Field), l.stack = stack.push f ∧
      next = ⟨l.listed.push f, stack ++ f.children.reverse⟩ := by
  rw [step, Option.map_eq_some_iff]
  constructor
  · rintro ⟨f, hf, rfl⟩
    obtain ⟨stack, hstack⟩ := Array.back?_eq_some_iff.mp hf
    exact ⟨stack, f, hstack, by rw [hstack, Array.pop_push]⟩
  · rintro ⟨stack, f, hstack, rfl⟩
    exact ⟨f, by rw [hstack, Array.back?_push], by rw [hstack, Array.pop_push]⟩

/-- A step lists one of the fields that are still to list. -/
theorem pending_step {l next : Listing} (h : l.step = some next) :
    next.pending + 1 = l.pending := by
  obtain ⟨stack, f, hstack, rfl⟩ := step_eq_some.mp h
  rw [pending, pending, hstack, Array.toList_appendList, Array.toList_push, sizeAll_append,
    sizeAll_append, sizeAll_reverse, sizeAll, sizeAll, size_eq]
  rfl

/-- Steps until the stack is empty. -/
def run (l : Listing) : Listing :=
  match _h : l.step with
  | none => l
  | some next => next.run
termination_by l.pending
decreasing_by exact Nat.lt_of_succ_le (Nat.le_of_eq (pending_step _h))

end Listing

/-- The fields of a template on all levels: a field comes before those inside it, and
these come before the field after it. -/
def flattenAll (fs : List Field) : List Field := (Listing.start fs).run.listed.toList

end Worksheet.Field
