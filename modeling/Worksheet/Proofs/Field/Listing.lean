import Mathlib.Logic.Relation
import Worksheet.Field.Listing
import Worksheet.Proofs.Place

/- Worksheet Field Order — a template is listed in preorder.

   What is listed and what the stack stands for come to the same list throughout
   (`Listing.total_step`). The listing ends where no step is left (`Listing.leads_run`), and
   there the stack stands for nothing. So what is listed is the traversal of the template,
   which has each field with the traversal of what is inside it before the next field
   (`Field.flattenAll_eq`).

   The traversal goes through the places of a template from left to right: it has the field
   at each place once, a frame before what is inside it and a field before those further on
   in the same list (`Field.flattenAll_preorder`). -/
namespace Worksheet.Field

/-! ## The traversal -/

mutual
/-- A field followed by the traversal of the fields inside it. -/
def preorder : Field → List Field
  | item info content => [item info content]
  | frame info children => frame info children :: preorderAll children

/-- The fields of a list, each followed by the traversal of the fields inside it. -/
def preorderAll : List Field → List Field
  | [] => []
  | f :: fs => f.preorder ++ preorderAll fs
end

theorem preorder_eq (f : Field) : f.preorder = f :: preorderAll f.children := by
  cases f <;> rfl

theorem preorderAll_eq_flatMap (fs : List Field) : preorderAll fs = fs.flatMap preorder := by
  induction fs with
  | nil => rfl
  | cons f fs ih => rw [preorderAll, ih, List.flatMap_cons]

theorem preorderAll_append (fs gs : List Field) :
    preorderAll (fs ++ gs) = preorderAll fs ++ preorderAll gs := by
  simp only [preorderAll_eq_flatMap, List.flatMap_append]

/-! ## The listing -/

namespace Listing

variable {l next : Listing}

/-- A listing gets to another in any number of steps. -/
abbrev Leads : Listing → Listing → Prop := Relation.ReflTransGen fun l next => l.step = some next

/-- What is listed, and after it the traversal of what is still on the stack. -/
def total (l : Listing) : List Field := l.listed.toList ++ preorderAll l.stack.toList.reverse

theorem total_start (fs : List Field) : (start fs).total = preorderAll fs := by
  simp [total, start]

/-- A field that is listed is followed by what is put on the stack in its place. -/
theorem total_step (h : l.step = some next) : next.total = l.total := by
  obtain ⟨stack, f, hstack, rfl⟩ := step_eq_some.mp h
  have hbefore : preorderAll l.stack.toList.reverse =
      f :: preorderAll f.children ++ preorderAll stack.toList.reverse := by
    rw [hstack, Array.toList_push, List.reverse_concat, preorderAll, preorder_eq]
  -- put on the stack in reverse, the fields inside come off it in order
  have hafter : preorderAll (stack ++ f.children.reverse).toList.reverse =
      preorderAll f.children ++ preorderAll stack.toList.reverse := by
    rw [Array.toList_appendList, List.reverse_append, List.reverse_reverse, preorderAll_append]
  rw [total, total, hbefore, hafter, Array.toList_push, List.append_assoc]
  rfl

/-- So a listing comes to the same list in any number of steps. -/
theorem total_leads (h : l.Leads next) : next.total = l.total := by
  induction h with
  | refl => rfl
  | tail _ hstep ih => rw [total_step hstep, ih]

/-- Without a step left the stack is empty. -/
theorem total_of_step (h : l.step = none) : l.total = l.listed.toList := by
  have hstack : l.stack = #[] := Array.back?_eq_none_iff.mp (Option.map_eq_none_iff.mp h)
  rw [total, hstack, List.reverse_nil, preorderAll, List.append_nil]

/-- From wherever a listing is, its steps lead to an end. -/
theorem leads_run (l : Listing) : l.Leads l.run ∧ l.run.step = none := by
  induction l using run.induct with
  | case1 l hend =>
    rw [run, hend]
    exact ⟨.refl, hend⟩
  | case2 l next hstep ih =>
    rw [run, hstep]
    exact ⟨.head hstep ih.1, ih.2⟩

/-- What is listed at the end is what the listing came to before it. -/
theorem listed_run (l : Listing) : l.run.listed.toList = l.total := by
  obtain ⟨hleads, hend⟩ := leads_run l
  rw [← total_of_step hend, total_leads hleads]

end Listing

theorem flattenAll_eq (fs : List Field) : flattenAll fs = preorderAll fs := by
  rw [flattenAll, Listing.listed_run, Listing.total_start]

/-! ## The places of fields -/

/-- The field at a place inside a field. -/
def part? : List Nat → Field → Option Field
  | [], f => some f
  | i :: p, f => f.children[i]?.bind (part? p)

/-- The field at a place of a template. -/
def at? (fs : List Field) : List Nat → Option Field
  | [] => none
  | i :: p => fs[i]?.bind (part? p)

mutual
/-- What holds of a field if it holds of the fields inside it holds of every field. -/
theorem of_children {P : Field → Prop} (h : ∀ f, (∀ c ∈ f.children, P c) → P f) : ∀ f, P f
  | item info content => h (item info content) (List.forall_mem_nil P)
  | frame info children => h (frame info children) (of_childrenAll h children)

theorem of_childrenAll {P : Field → Prop} (h : ∀ f, (∀ c ∈ f.children, P c) → P f) :
    ∀ fs : List Field, ∀ c ∈ fs, P c
  | [] => List.forall_mem_nil P
  | f :: fs => List.forall_mem_cons.mpr ⟨of_children h f, of_childrenAll h fs⟩
end

mutual
/-- The fields of a field with their places, from left to right. -/
def places : Field → List (List Nat × Field)
  | item info content => [([], item info content)]
  | frame info children => ([], frame info children) :: placesAll 0 children

/-- The fields of some fields, which are numbered from `i` on, with their places. -/
def placesAll (i : Nat) : List Field → List (List Nat × Field)
  | [] => []
  | f :: fs => f.places.map (fun (p, g) => (i :: p, g)) ++ placesAll (i + 1) fs
end

theorem placesAll_eq_gather (i : Nat) (fs : List Field) :
    placesAll i fs = Place.gather places i fs := by
  induction fs generalizing i with
  | nil => rfl
  | cons f fs ih => rw [placesAll, ih, Place.gather_cons]

theorem places_eq (f : Field) : f.places = ([], f) :: Place.gather places 0 f.children := by
  cases f with
  | item info content => rfl
  | frame info children => rw [places, placesAll_eq_gather]; rfl

theorem map_snd_places (f : Field) : f.places.map Prod.snd = f.preorder := by
  induction f using of_children with
  | h f ih =>
    rw [places_eq, preorder_eq, List.map_cons, Place.map_snd_gather ih, preorderAll_eq_flatMap]

theorem mem_places {f g : Field} {p : List Nat} : (p, g) ∈ f.places ↔ f.part? p = some g := by
  induction p generalizing f with
  | nil =>
    rw [places_eq]
    simp [part?, Place.nil_notMem_gather, eq_comm]
  | cons i p ih =>
    rw [places_eq]
    simp [part?, Place.cons_mem_gather, Option.bind_eq_some_iff, ih]

theorem pairwise_places (f : Field) : f.places.Pairwise fun x y => x.1 < y.1 := by
  induction f using of_children with
  | h f ih =>
    rw [places_eq, List.pairwise_cons]
    refine ⟨?_, Place.pairwise_gather ih 0⟩
    -- the field itself is at the empty place, which comes before all others
    rintro ⟨p, g⟩ hp
    cases p with
    | nil => exact absurd hp Place.nil_notMem_gather
    | cons i p => exact List.nil_lt_cons i p

/-- The places of a template are those of its fields, entered by their numbers. -/
theorem mem_gather_places {fs : List Field} {p : List Nat} {f : Field} :
    (p, f) ∈ Place.gather places 0 fs ↔ at? fs p = some f := by
  cases p with
  | nil => simp [at?, Place.nil_notMem_gather]
  | cons i p => simp [at?, Place.cons_mem_gather, Option.bind_eq_some_iff, mem_places]

/-- For every template: the steps of its listing lead to an end, and the fields that are
listed there are the flattened template; they are the traversal of the template; they are
what stands at the places of the template, each of which comes once, from left to right; and
a list of fields after another is listed after it. -/
theorem flattenAll_preorder (fs : List Field) :
    (∃ last, (Listing.start fs).Leads last ∧ last.step = none ∧
      flattenAll fs = last.listed.toList) ∧
    flattenAll fs = preorderAll fs ∧
    (∃ ps : List (List Nat × Field), flattenAll fs = ps.map Prod.snd ∧
      (ps.Pairwise fun x y => x.1 < y.1) ∧ ∀ p f, (p, f) ∈ ps ↔ at? fs p = some f) ∧
    ∀ gs, flattenAll (fs ++ gs) = flattenAll fs ++ flattenAll gs := by
  obtain ⟨hleads, hend⟩ := Listing.leads_run (.start fs)
  refine ⟨⟨_, hleads, hend, rfl⟩, flattenAll_eq fs,
    ⟨Place.gather places 0 fs, ?_, ?_, fun _ _ => mem_gather_places⟩, fun gs => ?_⟩
  · rw [flattenAll_eq, preorderAll_eq_flatMap, Place.map_snd_gather fun f _ => map_snd_places f]
  · exact Place.pairwise_gather (fun f _ => pairwise_places f) 0
  · simp only [flattenAll_eq, preorderAll_append]

/-- A frame inside a frame comes before the field after both. -/
example : (flattenAll [.ofNumber "a" none, .ofFrame "group" [.ofNumber "b" none,
    .ofFrame "inner" [.ofFormula "c" "a+b"]], .ofNumber "d" none]).map (·.id) =
      ["a", "group", "b", "inner", "c", "d"] := by decide +kernel

end Worksheet.Field
