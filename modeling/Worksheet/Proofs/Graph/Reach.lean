import Worksheet.Graph.Reach
import Worksheet.Proofs.Graph.Edges

/- Worksheet Reachability Theory — a search meets exactly what can be reached.

   The queue may grow and hold a name twice, so its length bounds nothing. What
   goes down with each step is the queue together with `pending`, the steps that
   the names not yet met stand for, so the search comes to its end
   (`search_collect`). What is met is closed under `next` then because during the
   search every neighbour of a name that is met is met or waits in the queue
   (`Search.closed`). -/
namespace Worksheet.Graph

/-! ## Steps that are left -/

theorem totalSteps_le {α : Type} {l : List α} {f f' : α → Nat} (h : ∀ x ∈ l, f' x ≤ f x) :
    totalSteps f' l ≤ totalSteps f l := by
  induction l with
  | nil => exact Nat.le_refl 0
  | cons x l ih =>
    exact Nat.add_le_add (h x List.mem_cons_self) (ih fun y hy => h y (List.mem_cons_of_mem x hy))

/-- A total goes down by at least as much as one of its terms does when no term goes
up. -/
theorem totalSteps_add_le {α : Type} {l : List α} {f f' : α → Nat} {a : α} {d : Nat}
    (hle : ∀ x ∈ l, f' x ≤ f x) (ha : a ∈ l) (hd : f' a + d ≤ f a) :
    totalSteps f' l + d ≤ totalSteps f l := by
  induction l with
  | nil => cases ha
  | cons x l ih =>
    rw [totalSteps, totalSteps]
    have hx : f' x ≤ f x := hle x List.mem_cons_self
    have hl : ∀ y ∈ l, f' y ≤ f y := fun y hy => hle y (List.mem_cons_of_mem x hy)
    rcases List.mem_cons.mp ha with rfl | ha
    · have := totalSteps_le hl
      omega
    · have := ih hl ha
      omega

/-- The steps that the names outside `met` stand for in a search along `next`. -/
def pending (g : Graph) (next : String → NameSet) (met : String → Bool) : Nat :=
  totalSteps (fun name => if met name then 0 else (next name).size + 1) g.everyName.toList

theorem pending_none (g : Graph) (next : String → NameSet) :
    g.pending next (fun _ => false) = g.extent next := rfl

/-- Meeting a name takes its own step and those of its edges off. -/
theorem pending_meet {g : Graph} {next : String → NameSet} {met met' : String → Bool}
    {name : String} (hn : name ∈ g.everyName) (hm : met name = false)
    (hm' : ∀ x, met' x = (name == x || met x)) :
    g.pending next met' + ((next name).size + 1) ≤ g.pending next met := by
  refine totalSteps_add_le (a := name) ?_ (Std.ExtTreeSet.mem_toList.mpr hn) ?_
  · intro x _
    rw [hm']
    cases met x <;> cases name == x <;> simp
  · simp [hm', hm]

/-! ## Breadth first -/

/-- The rules of the search without a bound: it ends when its queue is empty, a name that
was met before leaves the queue, and the neighbours of a name that is met join it. -/
inductive Search (next : String → NameSet) : NameSet → List String → NameSet → Prop
  | done {seen : NameSet} : Search next seen [] seen
  | skip {seen found : NameSet} {name : String} {queue : List String} (hmet : name ∈ seen)
      (rest : Search next seen queue found) : Search next seen (name :: queue) found
  | meet {seen found : NameSet} {name : String} {queue : List String} (hnew : name ∉ seen)
      (rest : Search next (seen.insert name) (queue ++ (next name).toList) found) :
      Search next seen (name :: queue) found

section
variable {g : Graph} {next : String → NameSet}

/-- With enough steps the search comes to its end. -/
theorem search_collect (hnext : ∀ a b, b ∈ next a → b ∈ g.everyName) (steps : Nat)
    (seen : NameSet) (queue : List String) (hqueue : ∀ q ∈ queue, q ∈ g.everyName)
    (hsteps : queue.length + g.pending next seen.contains ≤ steps) :
    Search next seen queue (collect next steps seen queue) := by
  fun_induction collect next steps seen queue with
  | case1 seen queue =>
    obtain rfl : queue = [] := List.eq_nil_of_length_eq_zero (by omega)
    exact .done
  | case2 _ seen => exact .done
  | case3 steps seen name queue hseen ih =>
    obtain ⟨-, hqueue⟩ := List.forall_mem_cons.mp hqueue
    rw [List.length_cons] at hsteps
    exact .skip (Std.ExtTreeSet.contains_iff_mem.mp hseen) (ih hqueue (by omega))
  | case4 steps seen name queue hseen ih =>
    obtain ⟨hname, hqueue⟩ := List.forall_mem_cons.mp hqueue
    have hdrop : g.pending next (seen.insert name).contains + ((next name).size + 1) ≤
        g.pending next seen.contains :=
      pending_meet hname (Bool.eq_false_iff.mpr hseen) (fun _ => NameSet.contains_insert)
    refine .meet (mt Std.ExtTreeSet.contains_iff_mem.mpr hseen) (ih ?_ ?_)
    · exact List.forall_mem_append.mpr
        ⟨hqueue, fun q hq => hnext name q (Std.ExtTreeSet.mem_toList.mp hq)⟩
    · rw [List.length_cons] at hsteps
      rw [List.length_append, Std.ExtTreeSet.length_toList]
      omega

/-- Every neighbour of a name that is met is met or waits in the queue. -/
def Front (next : String → NameSet) (seen : NameSet) (queue : List String) : Prop :=
  ∀ a ∈ seen, ∀ b ∈ next a, b ∈ seen ∨ b ∈ queue

/-- A name that was met before can leave the queue. -/
theorem Front.skip {seen : NameSet} {name : String} {queue : List String}
    (h : Front next seen (name :: queue)) (hmem : name ∈ seen) : Front next seen queue := by
  intro a ha b hb
  rcases h a ha b hb with hb | hb
  · exact .inl hb
  · rcases List.mem_cons.mp hb with rfl | hb
    · exact .inl hmem
    · exact .inr hb

/-- The neighbours of a name that is met wait in the queue. -/
theorem Front.meet {seen : NameSet} {name : String} {queue : List String}
    (h : Front next seen (name :: queue)) :
    Front next (seen.insert name) (queue ++ (next name).toList) := by
  intro a ha b hb
  rcases NameSet.mem_insert.mp ha with rfl | ha
  · exact .inr (List.mem_append_right _ (Std.ExtTreeSet.mem_toList.mpr hb))
  · rcases h a ha b hb with hb | hb
    · exact .inl (NameSet.mem_insert.mpr (.inr hb))
    · rcases List.mem_cons.mp hb with rfl | hb
      · exact .inl Std.ExtTreeSet.mem_insert_self
      · exact .inr (List.mem_append_left _ hb)

namespace Search

variable {seen found : NameSet} {queue : List String}

theorem subset (h : Search next seen queue found) : ∀ x ∈ seen, x ∈ found := by
  induction h with
  | done => exact fun _ hx => hx
  | skip _ _ ih => exact ih
  | meet _ _ ih => exact fun x hx => ih x (NameSet.mem_insert.mpr (.inr hx))

/-- Nothing is met that was not met before and cannot be reached from the queue. -/
theorem sound (h : Search next seen queue found) :
    ∀ x ∈ found, x ∈ seen ∨ ∃ q ∈ queue, Relation.ReflTransGen (fun a b => b ∈ next a) q x := by
  induction h with
  | done => exact fun _ hx => .inl hx
  | @skip _ _ name _ _ _ ih =>
    intro x hx
    rcases ih x hx with hx | ⟨q, hq, hqx⟩
    · exact .inl hx
    · exact .inr ⟨q, List.mem_cons_of_mem name hq, hqx⟩
  | @meet _ _ name _ _ _ ih =>
    intro x hx
    rcases ih x hx with hx | ⟨q, hq, hqx⟩
    · rcases NameSet.mem_insert.mp hx with rfl | hx
      · exact .inr ⟨_, List.mem_cons_self, .refl⟩
      · exact .inl hx
    · rcases List.mem_append.mp hq with hq | hq
      · exact .inr ⟨q, List.mem_cons_of_mem name hq, hqx⟩
      · exact .inr ⟨name, List.mem_cons_self, .head (Std.ExtTreeSet.mem_toList.mp hq) hqx⟩

/-- The whole queue is met, and what is met leads nowhere else. -/
theorem closed (h : Search next seen queue found) (hfront : Front next seen queue) :
    (∀ q ∈ queue, q ∈ found) ∧ ∀ a ∈ found, ∀ b ∈ next a, b ∈ found := by
  induction h with
  | done => exact ⟨List.forall_mem_nil _, fun a ha b hb => by simpa using hfront a ha b hb⟩
  | skip hmet rest ih =>
    obtain ⟨hqueue, hclosed⟩ := ih (hfront.skip hmet)
    exact ⟨List.forall_mem_cons.mpr ⟨rest.subset _ hmet, hqueue⟩, hclosed⟩
  | meet _ rest ih =>
    obtain ⟨hqueue, hclosed⟩ := ih hfront.meet
    have hmet := rest.subset _ Std.ExtTreeSet.mem_insert_self
    exact ⟨List.forall_mem_cons.mpr ⟨hmet, fun q hq => hqueue q (List.mem_append_left _ hq)⟩,
      hclosed⟩

/-- A search that has met nothing before meets exactly what can be reached from its queue. -/
theorem mem_iff (h : Search next ∅ queue found) {x : String} :
    x ∈ found ↔ ∃ q ∈ queue, Relation.ReflTransGen (fun a b => b ∈ next a) q x := by
  constructor
  · intro hx
    exact (h.sound x hx).resolve_left Std.ExtTreeSet.not_mem_empty
  · rintro ⟨q, hq, hpath⟩
    obtain ⟨hqueue, hclosed⟩ := h.closed fun a ha => absurd ha Std.ExtTreeSet.not_mem_empty
    induction hpath with
    | refl => exact hqueue q hq
    | tail _ hb ih => exact hclosed _ ih _ hb

end Search

end

namespace WellFormed

variable {g : Graph} (h : g.WellFormed) {name x : String}

include h

/-- The search along the readers of each name, from those of one name, comes to its end. -/
theorem search_transitiveDependents (name : String) :
    Search g.dependents ∅ (g.dependents name).toList (g.transitiveDependents name) := by
  have hnext : ∀ a b, b ∈ g.dependents a → b ∈ g.everyName :=
    fun a b hb => (h.mem_everyName_of_reads ((h.mirror b a).mpr hb)).1
  refine search_collect hnext _ ∅ _
    (fun q hq => hnext name q (Std.ExtTreeSet.mem_toList.mp hq)) ?_
  rw [Std.ExtTreeSet.length_toList, ← pending_none]
  exact Nat.le_of_eq (congrArg _ (congrArg _ (funext fun _ => Std.ExtTreeSet.contains_empty)))

/-- The transitive dependents of a name are the names with a path of one edge or more to
it. -/
theorem mem_transitiveDependents : x ∈ g.transitiveDependents name ↔ g.Depends x name := by
  have hback : ∀ a b, b ∈ g.dependents a ↔ g.Reads b a := fun a b => (h.mirror b a).symm
  have hswap : ∀ q, Relation.ReflTransGen (fun a b => b ∈ g.dependents a) q x ↔ g.Leads x q := by
    intro q
    rw [← Relation.reflTransGen_swap]
    simp only [hback]
  -- the search starts at the readers of `name`, and the last edge of a path leads from one
  calc x ∈ g.transitiveDependents name
    _ ↔ ∃ q ∈ (g.dependents name).toList, g.Leads x q := by
        rw [(h.search_transitiveDependents name).mem_iff]
        simp only [hswap]
    _ ↔ ∃ q, g.Leads x q ∧ g.Reads q name := by
        simp only [Std.ExtTreeSet.mem_toList, hback, and_comm]
    _ ↔ g.Depends x name := Relation.TransGen.tail'_iff.symm

end WellFormed

end Worksheet.Graph
