import Mathlib.Data.List.Pairwise

/- Worksheet Places — the places in a tree, from left to right.

   A place is the way from the root to a part of a tree: the number of the child that is
   taken at each step. Places are compared as lists of numbers are, so a place comes before
   those inside it, and these come before the places further to the right.

   What stands at places in the children of a node stands in the node one step further
   down (`gather`). If it is listed in the order of places for each child, then it is for
   the node (`pairwise_gather`). -/
namespace Worksheet.Place

variable {T α : Type}

/-- What stands at places in nodes, which are the children of one node from number `i`
on, with its places there. -/
def gather (ps : T → List (List Nat × α)) (i : Nat) (cs : List T) : List (List Nat × α) :=
  (cs.zipIdx i).flatMap fun (c, j) => (ps c).map fun (p, a) => (j :: p, a)

variable {ps : T → List (List Nat × α)} {cs : List T}

theorem gather_cons (i : Nat) (c : T) :
    gather ps i (c :: cs) = (ps c).map (fun (p, a) => (i :: p, a)) ++ gather ps (i + 1) cs := rfl

/-- What is listed for the children is listed for the node, one child after the other. -/
theorem map_snd_gather {list : T → List α} (h : ∀ c ∈ cs, (ps c).map Prod.snd = list c)
    (i : Nat) : (gather ps i cs).map Prod.snd = cs.flatMap list := by
  induction cs generalizing i with
  | nil => rfl
  | cons c cs ih =>
    obtain ⟨hc, hcs⟩ := List.forall_mem_cons.mp h
    rw [gather_cons, List.map_append, ih hcs, List.flatMap_cons, ← hc, List.map_map]
    rfl

theorem nil_notMem_gather {i : Nat} {a : α} : ([], a) ∉ gather ps i cs := by
  simp [gather]

theorem cons_mem_gather {i : Nat} {p : List Nat} {a : α} :
    (i :: p, a) ∈ gather ps 0 cs ↔ ∃ c, cs[i]? = some c ∧ (p, a) ∈ ps c := by
  simp only [gather, List.mem_flatMap, List.mem_map, Prod.exists, List.mem_zipIdx_iff_getElem?,
    Prod.mk.injEq, List.cons.injEq]
  constructor
  · rintro ⟨c, _, hc, q, b, hq, ⟨rfl, rfl⟩, rfl⟩
    exact ⟨c, hc, hq⟩
  · rintro ⟨c, hc, hp⟩
    exact ⟨c, i, hc, p, a, hp, ⟨rfl, rfl⟩, rfl⟩

theorem pairwise_snd_zipIdx (i : Nat) : (cs.zipIdx i).Pairwise fun x y => x.2 < y.2 := by
  rw [← List.pairwise_map (f := Prod.snd) (R := (· < ·)), List.zipIdx_map_snd]
  exact List.pairwise_lt_range'

theorem pairwise_gather (h : ∀ c ∈ cs, (ps c).Pairwise fun x y => x.1 < y.1) (i : Nat) :
    (gather ps i cs).Pairwise fun x y => x.1 < y.1 := by
  rw [gather, List.pairwise_flatMap]
  constructor
  · rintro ⟨c, j⟩ hc
    rw [List.pairwise_map]
    exact (h c (List.fst_mem_of_mem_zipIdx hc)).imp fun hlt =>
      List.cons_lt_cons_iff.mpr (.inr ⟨rfl, hlt⟩)
  · -- the first step to a place in a later child has a larger number
    refine (pairwise_snd_zipIdx i).imp fun hlt x hx y hy => ?_
    obtain ⟨x, -, rfl⟩ := List.mem_map.mp hx
    obtain ⟨y, -, rfl⟩ := List.mem_map.mp hy
    exact List.cons_lt_cons_iff.mpr (.inl hlt)

end Worksheet.Place
