import Mathlib.Data.List.Chain
import Mathlib.Data.List.Nodup
import Worksheet.Graph.Cycle
import Worksheet.Proofs.Graph.Component
import Worksheet.Proofs.Graph.Order
import Worksheet.Proofs.Outcome

/- Worksheet Cycle Theory — one cycle, all names on cycles, and the order.

   The search for one cycle follows a path from a declared name. A name that is met on
   the path again closes a cycle: from where it stands on the path, each name reads the
   next (`Descent.ring`). The black names read only each other and are on no cycle
   (`Cleared`), so if the search ends without a cycle, no declared name leads to one
   (`WellFormed.detectCycle_eq_none_iff`). The search comes to its end as its rules do,
   which bound nothing (`WellFormed.seeks_detectCycle`).

   The search and the pass over the components both start from declared names; the order
   is made of all names. So the three agree on every cycle that a declared name leads to.
   A cycle of names that none leads to keeps the graph from having an order, and is seen
   neither by the search nor by the pass (`cycle_analyses_build`). A name is one of its own
   transitive dependents exactly if it is on a cycle, whether declared names lead there or
   not (`transitiveDependents_build`). -/
namespace Worksheet.Graph

/-- Distinct names each of which reads the next, and the last the first. -/
def Ring (g : Graph) : List String → Prop
  | [] => False
  | name :: rest => (name :: rest).Nodup ∧ (name :: (rest ++ [name])).IsChain g.Reads

/-- A declared name leads to the name. -/
def Rooted (g : Graph) (name : String) : Prop := ∃ s, g.isDeclared s = true ∧ g.Leads s name

variable {g : Graph}

theorem Rooted.tail {a b : String} (h : g.Rooted a) (hab : g.Leads a b) : g.Rooted b := by
  obtain ⟨s, hs, hlead⟩ := h
  exact ⟨s, hs, hlead.trans hab⟩

/-- Along a ring every name depends on every other and on itself. -/
theorem Ring.depends {cycle : List String} (h : Ring g cycle) {a b : String} (ha : a ∈ cycle)
    (hb : b ∈ cycle) : g.Depends a b := by
  cases cycle with
  | nil => cases ha
  | cons name rest =>
    have hpairs : (name :: (rest ++ [name])).Pairwise g.Depends :=
      List.isChain_iff_pairwise.mp (h.2.imp fun _ _ => .single)
    obtain ⟨hfirst, hrest⟩ := List.pairwise_cons.mp hpairs
    have hself : g.Depends name name := hfirst name (List.mem_append_right _ List.mem_cons_self)
    have hfrom : g.Depends name b := by
      rcases List.mem_cons.mp hb with rfl | hb
      · exact hself
      · exact hfirst b (List.mem_append_left _ hb)
    have hto : g.Depends a name := by
      rcases List.mem_cons.mp ha with rfl | ha
      · exact hself
      · exact (List.pairwise_append.mp hrest).2.2 a ha name List.mem_cons_self
    exact hto.trans hfrom

/-! ## The path of the search -/

/-- The path that a search has followed to `name`, last name first: distinct names, each
read by the one before it on the way from a declared name. -/
structure Descent (g : Graph) (path : List String) (name : String) : Prop where
  nodup : path.Nodup
  chain : (name :: path).IsChain fun b a => g.Reads a b
  rooted : g.Rooted name

theorem Descent.start {name : String} (h : g.isDeclared name = true) : Descent g [] name where
  nodup := .nil
  chain := .singleton name
  rooted := ⟨name, h, .refl⟩

theorem Descent.step {path : List String} {name next : String} (h : Descent g path name)
    (hnew : name ∉ path) (hread : g.Reads name next) : Descent g (name :: path) next where
  nodup := List.nodup_cons.mpr ⟨hnew, h.nodup⟩
  chain := List.isChain_cons_cons.mpr ⟨hread, h.chain⟩
  rooted := h.rooted.tail (.single hread)

/-- A name that is on the path to it closes a ring. -/
theorem Descent.ring {path : List String} {name : String} (h : Descent g path name)
    (hback : name ∈ path) : Ring g (name :: (path.takeWhile (· != name)).reverse) := by
  obtain ⟨after, before, rfl, hafter⟩ := List.eq_append_cons_of_mem hback
  rw [takeWhile_bne hafter]
  constructor
  · rw [List.nodup_cons, List.mem_reverse, List.nodup_reverse]
    exact ⟨hafter, h.nodup.of_append_left⟩
  · have hchain := h.chain
    rw [← List.cons_append, List.isChain_split] at hchain
    have hreverse : name :: (after.reverse ++ [name]) = (name :: after ++ [name]).reverse := by simp
    rw [hreverse, List.isChain_reverse]
    exact hchain.1

/-! ## What the search finds -/

/-- What the search reports is a ring, and a declared name leads to it. -/
theorem fails_of_seeks {path done names : List String} {found : Found}
    (h : Seeks g.dependencies path done names found)
    (hpath : ∀ name ∈ names, Descent g path name) :
    Fails (fun cycle => Ring g cycle ∧ ∃ x ∈ cycle, g.Rooted x) found := by
  induction h with
  | nil => exact .ok _
  | met _ _ ih => exact ih (List.forall_mem_cons.mp hpath).2
  | @back _ _ _ name _ hback =>
    have hname : Descent g _ name := hpath name List.mem_cons_self
    exact .error ⟨hname.ring hback, name, List.mem_cons_self, hname.rooted⟩
  | @fail _ _ _ _ name _ hnew _ ih =>
    have hname : Descent g _ name := hpath name List.mem_cons_self
    exact ih fun next hnext => hname.step hnew (Std.ExtTreeSet.mem_toList.mp hnext)
  | visit _ _ _ _ _ ih => exact ih (List.forall_mem_cons.mp hpath).2

/-- The names read only each other, are on no cycle, and are none of the path. -/
structure Cleared (g : Graph) (path done : List String) : Prop where
  closed : ∀ a ∈ done, ∀ b, g.Reads a b → b ∈ done
  acyclic : ∀ a ∈ done, ¬ g.OnCycle a
  apart : ∀ p ∈ path, p ∉ done

variable {path done done' names : List String} {name : String}

theorem Cleared.leads (h : Cleared g path done) {a b : String} (ha : a ∈ done)
    (hab : g.Leads a b) : b ∈ done := by
  induction hab with
  | refl => exact ha
  | tail _ hread ih => exact h.closed _ ih _ hread

/-- A name that is not done with can come onto the path. -/
theorem Cleared.push (h : Cleared g path done) (hfresh : name ∉ done) :
    Cleared g (name :: path) done :=
  { h with apart := List.forall_mem_cons.mpr ⟨hfresh, h.apart⟩ }

/-- The last name of the path is done with once all that it reads is. -/
theorem Cleared.put (h : Cleared g (name :: path) done) (hnew : name ∉ path)
    (hreads : ∀ b, g.Reads name b → b ∈ done) : Cleared g path (name :: done) where
  closed := by
    refine List.forall_mem_cons.mpr ⟨fun b hread => ?_, fun a ha b hread => ?_⟩
    · exact List.mem_cons_of_mem name (hreads b hread)
    · exact List.mem_cons_of_mem name (h.closed a ha b hread)
  acyclic := by
    refine List.forall_mem_cons.mpr ⟨fun hcycle => ?_, h.acyclic⟩
    -- the cycle would lead back from what the name reads to the name, which is not done with
    obtain ⟨b, hread, hback⟩ := Relation.TransGen.head'_iff.mp hcycle
    exact h.apart name List.mem_cons_self (h.leads (hreads b hread) hback)
  apart p hp hmem := by
    rcases List.mem_cons.mp hmem with rfl | hmem
    · exact hnew hp
    · exact h.apart p (List.mem_cons_of_mem name hp) hmem

/-- What a search that started with `done` and went through `names` leaves. -/
structure After (g : Graph) (path done names done' : List String) : Prop where
  cleared : Cleared g path done'
  kept : ∀ x ∈ done, x ∈ done'
  met : ∀ name ∈ names, name ∈ done'

/-- Searches that are made one after the other. -/
theorem After.cons {last : List String} (hkept : ∀ x ∈ done, x ∈ done') (hname : name ∈ done')
    (h : After g path done' names last) : After g path done (name :: names) last where
  cleared := h.cleared
  kept x hx := h.kept x (hkept x hx)
  met := List.forall_mem_cons.mpr ⟨h.kept name hname, h.met⟩

/-- A search that ends without a cycle is done with its names. -/
theorem yields_of_seeks {found : Found} (h : Seeks g.dependencies path done names found)
    (hdone : Cleared g path done) :
    Yields (After g path done names) found := by
  induction h with
  | nil => exact .ok ⟨hdone, fun _ hx => hx, List.forall_mem_nil _⟩
  | met hmet _ ih => exact fun last hlast => .cons (fun _ hx => hx) hmet (ih hdone last hlast)
  | back => exact .error _
  | fail => exact .error _
  | @visit path done done' names name _ hfresh hnew _ _ ihbelow ihrest =>
    -- what the name reads is searched with the name on the path
    have hbelow : After g (name :: path) done _ done' := ihbelow (hdone.push hfresh) done' rfl
    have hput : Cleared g path (name :: done') :=
      hbelow.cleared.put hnew fun b hb => hbelow.met b (Std.ExtTreeSet.mem_toList.mpr hb)
    exact fun last hlast => .cons (fun x hx => List.mem_cons_of_mem name (hbelow.kept x hx))
      List.mem_cons_self (ihrest hput last hlast)

/-! ## The whole search -/

/-- The search from all declared names comes to its end, and what it finds is reported. -/
theorem WellFormed.seeks_detectCycle (hw : g.WellFormed) :
    (∃ cycle, g.detectCycle = some cycle ∧
        Seeks g.dependencies [] [] g.nodes.toList (.error cycle)) ∨
      ∃ done, g.detectCycle = none ∧ Seeks g.dependencies [] [] g.nodes.toList (.ok done) := by
  have hnext : ∀ a b, b ∈ g.dependencies a → b ∈ g.everyName :=
    fun a b hread => (hw.mem_everyName_of_reads hread).2
  have hstarts : ∀ n ∈ g.nodes.toList, n ∈ g.everyName := fun n hn =>
    mem_everyName.mpr (.inl (mem_allNodes.mpr (.inl (Std.ExtTreeSet.mem_toList.mp hn))))
  have hseeks := DepthFirst.seeks_pass hnext hstarts
  rw [detectCycle]
  cases hpass : DepthFirst.pass g g.dependencies g.nodes.toList with
  | error cycle =>
    rw [hpass] at hseeks
    exact .inl ⟨cycle, rfl, hseeks⟩
  | ok last =>
    rw [hpass] at hseeks
    exact .inr ⟨last.finished, rfl, hseeks⟩

theorem WellFormed.ring_of_detectCycle (hw : g.WellFormed) {cycle : List String}
    (h : g.detectCycle = some cycle) : Ring g cycle ∧ ∃ x ∈ cycle, g.Rooted x := by
  rcases hw.seeks_detectCycle with ⟨found, hfound, hseeks⟩ | ⟨_, hnone, -⟩
  · obtain rfl := Option.some.inj (hfound.symm.trans h)
    exact fails_of_seeks hseeks (fun name hname => .start (Std.ExtTreeSet.mem_toList.mp hname))
      found rfl
  · rw [hnone] at h
    cases h

/-- Every name of the cycle that is found is among the names on a cycle. -/
theorem WellFormed.mem_cyclicReferences_of_detectCycle (hw : g.WellFormed) {cycle : List String}
    (h : g.detectCycle = some cycle) : ∀ x ∈ cycle, x ∈ g.cyclicReferences := by
  obtain ⟨hring, r, hr, hrooted⟩ := hw.ring_of_detectCycle h
  intro x hx
  exact hw.mem_cyclicReferences.mpr
    ⟨hrooted.tail (hring.depends hr hx).to_reflTransGen, hring.depends hx hx⟩

/-- There is no cycle to be found exactly if no name is among those on a cycle. -/
theorem WellFormed.detectCycle_eq_none_iff (hw : g.WellFormed) :
    g.detectCycle = none ↔ ∀ x, x ∉ g.cyclicReferences := by
  constructor
  · intro h x hx
    obtain ⟨⟨s, hs, hlead⟩, hcycle⟩ := hw.mem_cyclicReferences.mp hx
    rcases hw.seeks_detectCycle with ⟨cycle, hfound, -⟩ | ⟨done, -, hseeks⟩
    · rw [h] at hfound
      cases hfound
    · have hafter : After g [] [] g.nodes.toList done :=
        yields_of_seeks hseeks ⟨List.forall_mem_nil _, List.forall_mem_nil _, List.forall_mem_nil _⟩
          done rfl
      have hmet : s ∈ done := hafter.met s (Std.ExtTreeSet.mem_toList.mpr hs)
      exact hafter.cleared.acyclic x (hafter.cleared.leads hmet hlead) hcycle
  · intro h
    by_contra hne
    obtain ⟨cycle, hcycle⟩ := Option.ne_none_iff_exists'.mp hne
    obtain ⟨-, x, hx, -⟩ := hw.ring_of_detectCycle hcycle
    exact h x (hw.mem_cyclicReferences_of_detectCycle hcycle x hx)

/-- For every graph that the operations build: the search comes to its end; a cycle that it
finds is a list of distinct names, at least one, each of which reads the next and the last
the first; and it finds none exactly if no declared name leads to a name on a cycle. -/
theorem detectCycle_build (ops : List Operation) :
    let g := build ops
    ((∃ cycle, g.detectCycle = some cycle ∧
        Seeks g.dependencies [] [] g.nodes.toList (.error cycle)) ∨
      ∃ done, g.detectCycle = none ∧ Seeks g.dependencies [] [] g.nodes.toList (.ok done)) ∧
    (∀ cycle, g.detectCycle = some cycle → g.Ring cycle) ∧
    (g.detectCycle = none ↔ ¬ ∃ x, g.OnCycle x ∧ ∃ s, g.isDeclared s = true ∧ g.Leads s x) := by
  intro g
  have hw : g.WellFormed := wellFormed_build ops
  refine ⟨hw.seeks_detectCycle, fun cycle hcycle => (hw.ring_of_detectCycle hcycle).1, ?_⟩
  rw [hw.detectCycle_eq_none_iff]
  simp only [hw.mem_cyclicReferences, not_exists, and_comm]

/-- The search starts at `a`, comes to the cycle at `b`, and reports it from there on. -/
example : (build [.declare "a", .addEdge "a" "b", .addEdge "b" "d", .addEdge "c" "b",
    .addEdge "d" "c"]).detectCycle = some ["b", "d", "c"] := by decide +kernel

/-! ## Agreement -/

/-- A path to a name that no declared name leads to keeps all its edges: a declared name
leads to each of the names that are removed. -/
theorem WellFormed.depends_without (hw : g.WellFormed) {a x : String} (hx : ¬ g.Rooted x)
    (h : g.Depends a x) : (g.without g.cyclicReferences).Depends a x := by
  have hkept : ∀ b, g.Leads b x → b ∉ g.cyclicReferences := fun b hlead hb =>
    hx (Rooted.tail (hw.mem_cyclicReferences.mp hb).1 hlead)
  induction h using Relation.TransGen.head_induction_on with
  | single hread => exact .single (reads_without.mpr ⟨hread, hkept _ (.single hread), hkept x .refl⟩)
  | head hread hpath ih =>
    have hlead := hpath.to_reflTransGen
    exact .head (reads_without.mpr ⟨hread, hkept _ (.head hread hlead), hkept _ hlead⟩) ih

/-- Without the names on cycles exactly those cycles are left that no declared name leads to. -/
theorem WellFormed.onCycle_without_iff (hw : g.WellFormed) {x : String} :
    (g.without g.cyclicReferences).OnCycle x ↔ g.OnCycle x ∧ ¬ g.Rooted x := by
  constructor
  · intro h
    obtain ⟨hcycle, hkept⟩ := h.of_without
    exact ⟨hcycle, fun hrooted => hkept (hw.mem_cyclicReferences.mpr ⟨hrooted, hcycle⟩)⟩
  · rintro ⟨hcycle, hrooted⟩
    exact hw.depends_without hrooted hcycle

/-- For every graph that the operations build: a cycle is found exactly if some name is
among those on a cycle, and all names of the cycle are among them. There is no order exactly
if a cycle is found or there is no order without these names either, and that is exactly if
there is a cycle that no declared name leads to. -/
theorem cycle_analyses_build (ops : List Operation) :
    let g := build ops
    let left := g.without g.cyclicReferences
    (g.detectCycle ≠ none ↔ ∃ x, x ∈ g.cyclicReferences) ∧
    (∀ cycle, g.detectCycle = some cycle → ∀ x ∈ cycle, x ∈ g.cyclicReferences) ∧
    (g.topologicalOrder = none ↔ g.detectCycle ≠ none ∨ left.topologicalOrder = none) ∧
    (left.topologicalOrder = none ↔
      ∃ x, g.OnCycle x ∧ ¬ ∃ s, g.isDeclared s = true ∧ g.Leads s x) := by
  intro g left
  have hw : g.WellFormed := wellFormed_build ops
  have hfound : g.detectCycle ≠ none ↔ ∃ x, x ∈ g.cyclicReferences := by
    rw [ne_eq, hw.detectCycle_eq_none_iff, not_forall_not]
  have hleft : left.topologicalOrder = none ↔ ∃ x, g.OnCycle x ∧ ¬ g.Rooted x := by
    rw [(WellFormed.without g _).topologicalOrder_eq_none_iff]
    exact exists_congr fun _ => hw.onCycle_without_iff
  refine ⟨hfound, fun cycle hcycle => hw.mem_cyclicReferences_of_detectCycle hcycle, ?_, hleft⟩
  rw [hw.topologicalOrder_eq_none_iff, hfound, hleft, ← exists_or]
  refine exists_congr fun x => ?_
  rw [hw.mem_cyclicReferences]
  constructor
  · intro hcycle
    exact (em (g.Rooted x)).imp (fun hrooted => ⟨hrooted, hcycle⟩) fun hrooted => ⟨hcycle, hrooted⟩
  · rintro (⟨-, hcycle⟩ | ⟨hcycle, -⟩) <;> exact hcycle

/-- `a` reads itself and is not declared: there is no order, yet no cycle is found and no
name is removed. -/
theorem cycle_of_undeclared_name :
    let g := build [.addEdge "a" "a"]
    g.topologicalOrder = none ∧ g.detectCycle = none ∧ g.cyclicReferences.toList = [] ∧
      (g.without g.cyclicReferences).topologicalOrder = none := by decide +kernel

/-- For every graph that the operations build and every name: the search along readers
comes to its end, and it meets exactly the names with a path of one edge or more to the
name. So the name itself is met exactly if it is on a cycle, and if every name that reads
is declared, exactly if it is among the names on cycles that the pass collects. -/
theorem transitiveDependents_build (ops : List Operation) (name : String) :
    let g := build ops
    Search g.dependents ∅ (g.dependents name).toList (g.transitiveDependents name) ∧
    (∀ y, y ∈ g.transitiveDependents name ↔ g.Depends y name) ∧
    (name ∈ g.transitiveDependents name ↔ g.OnCycle name) ∧
    ((∀ a b, g.Reads a b → g.isDeclared a = true) →
      (name ∈ g.transitiveDependents name ↔ name ∈ g.cyclicReferences)) := by
  intro g
  have hw : g.WellFormed := wellFormed_build ops
  have hself : name ∈ g.transitiveDependents name ↔ g.OnCycle name := hw.mem_transitiveDependents
  refine ⟨hw.search_transitiveDependents name, fun y => hw.mem_transitiveDependents, hself, ?_⟩
  intro hdeclared
  rw [hself, hw.mem_cyclicReferences_iff_onCycle hdeclared]

/-- Every name of the cycle is met from `a`, and so is `d`, which reads the cycle; `e`, which
the cycle reads, is not. -/
example : ((build [.addEdge "a" "b", .addEdge "b" "a", .addEdge "b" "e",
    .addEdge "d" "b"]).transitiveDependents "a").toList = ["a", "b", "d"] := by decide +kernel

end Worksheet.Graph
