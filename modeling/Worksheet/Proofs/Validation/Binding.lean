import Mathlib.Data.List.Flatten
import Worksheet.Proofs.Field.Duplicate
import Worksheet.Validation

/- Worksheet Validation and Bindings — which fields judge the values of a context.

   A sheet calculates with the first field of each name and ignores the others. Validation
   asks every field with a name that is no formula, the ignored ones too: all that the bound
   fields say is reported, in their order, but an ignored field may object to a value that
   it does not govern, even to the entry of a formula. Nothing else is reported exactly if no
   ignored field objects (`Field.contextIssues_eq_iff`). -/
namespace Worksheet

/-- What a field with a name says about the value that a context holds at the name. Formulas
say nothing. -/
def Binding.issues (engine : PatternEngine) (c : Context) (b : Binding) : List Issue :=
  if b.field.isFormula then []
  else
    match c.value? b.name with
    | some v => b.field.issuesWith engine v
    | none => []

/-- A field with a name objects if it is no formula and finds something wrong with a value
that is there. -/
theorem Binding.issues_ne_nil_iff {engine : PatternEngine} {c : Context} {b : Binding} :
    b.issues engine c ≠ [] ↔ b.field.isFormula = false ∧
      ∃ v, c.value? b.name = some v ∧ b.field.issuesWith engine v ≠ [] := by
  rw [issues]
  cases b.field.isFormula with
  | true => simp
  | false => cases c.value? b.name <;> simp

namespace Field

/-- Every field with a name is asked. -/
theorem contextIssuesWith_eq (engine : PatternEngine) (fs : List Field) (c : Context) :
    contextIssuesWith engine fs c = (named fs).flatMap (Binding.issues engine c) := by
  rw [contextIssuesWith, named]
  induction flattenAll fs with
  | nil => rfl
  | cons f l ih =>
    cases href : f.reference with
    | none =>
      rw [List.filterMap_cons_none (by rw [href]; rfl), ← ih, List.filter_cons]
      split
      · rw [List.flatMap_cons, href]
        rfl
      · rfl
    | some name =>
      rw [List.filterMap_cons_some (b := ⟨name, f⟩) (by rw [href]; rfl), List.flatMap_cons, ← ih,
        List.filter_cons, Binding.issues]
      cases f.isFormula with
      | true => rfl
      | false =>
        rw [Bool.not_false, if_pos rfl, List.flatMap_cons, href]
        rfl

/-- All fields say what those say that are kept, unless one that is passed over says
something: its name was seen, or a field before it has the name. -/
theorem flatMap_firsts_eq_iff {α : Type} {say : Binding → List α} {bs : List Binding}
    {seen : NameSet} :
    bs.flatMap say = (firsts seen bs).flatMap say ↔
      ¬ ∃ before b after, bs = before ++ b :: after ∧
        (b.name ∈ seen ∨ ∃ a ∈ before, a.name = b.name) ∧ say b ≠ [] := by
  induction bs generalizing seen with
  | nil => simp [firsts]
  | cons x bs ih =>
    rw [exists_split_cons, not_or, List.flatMap_cons]
    by_cases hseen : x.name ∈ seen
    · -- the name of `x` was seen, so it adds nothing to the names that were seen
      have hsame : ∀ (b : Binding) (before : List Binding),
          (b.name ∈ seen ∨ ∃ a ∈ x :: before, a.name = b.name) ↔
            (b.name ∈ seen ∨ ∃ a ∈ before, a.name = b.name) := by
        intro b before
        have hx : x.name = b.name → b.name ∈ seen := fun heq => heq ▸ hseen
        rw [List.exists_mem_cons_iff, ← or_assoc, or_iff_left_of_imp hx]
      simp only [hsame, ← ih, hseen, true_or, true_and, not_not]
      rw [firsts_cons_of_mem (Std.ExtTreeSet.contains_iff_mem.mpr hseen)]
      constructor
      · intro heq
        have hle := ((firsts_sublist seen bs).flatMap say).length_le
        have hlength := congrArg List.length heq
        rw [List.length_append] at hlength
        have hnil : say x = [] := List.eq_nil_of_length_eq_zero (by omega)
        rw [hnil, List.nil_append] at heq
        exact ⟨hnil, heq⟩
      · rintro ⟨hnil, heq⟩
        rw [hnil, List.nil_append, heq]
    · rw [firsts_cons_of_not_mem (mt Std.ExtTreeSet.contains_iff_mem.mp hseen), List.flatMap_cons,
        List.append_cancel_left_eq, ih]
      simp [hseen, or_assoc, or_left_comm]

/-- For every template and context, whatever the engine for patterns says: what the bound
fields say is reported, in their order. Nothing else is reported exactly if no field objects
that has the name of a field before it: is no formula, though there is a value at its name in
which it finds something wrong. -/
theorem contextIssues_eq_iff (engine : PatternEngine) (fs : List Field) (c : Context) :
    let bound := (bindings fs).flatMap (Binding.issues engine c)
    bound.Sublist (contextIssuesWith engine fs c) ∧
    (contextIssuesWith engine fs c = bound ↔
      ¬ ∃ before b after, named fs = before ++ b :: after ∧ (∃ a ∈ before, a.name = b.name) ∧
        b.field.isFormula = false ∧
          ∃ v, c.value? b.name = some v ∧ b.field.issuesWith engine v ≠ []) := by
  intro bound
  rw [contextIssuesWith_eq]
  refine ⟨(firsts_sublist ∅ (named fs)).flatMap _, ?_⟩
  refine (@flatMap_firsts_eq_iff _ (Binding.issues engine c) (named fs) ∅).trans ?_
  simp only [Std.ExtTreeSet.not_mem_empty, false_or, Binding.issues_ne_nil_iff]

/-- `a` is bound to a formula, and the second field of that name, which the sheet ignores,
objects to the entry. -/
theorem contextIssues_of_ignored_field :
    let fs := [.ofFormula "a" "=TRUE", (ofNumber "b" none).withReference "a"]
    let c := Context.ofValues [("a", .text "x")]
    (first? fs "a").map isFormula = some true ∧
      (bindings fs).flatMap (Binding.issues .standard c) = [] ∧
      (contextIssues fs c).map Issue.display = ["a: expected number, got string"] := by
  decide +kernel

end Field

end Worksheet
