import Mathlib.Data.Set.Card
import Worksheet.Proofs.Graph.Edges

/- Worksheet Canonical Graphs — a graph is its declared names and its edges.

   A graph that the operations build holds each edge in both directions and no name
   without a neighbour, so it does not show how it was built: two such graphs are equal
   if they have the same declared names and the same edges. Each map lists every edge
   once, so both count the same edges (`WellFormed.edgeCount_eq`). What is left when
   names are removed in two steps is what is left when they are removed at once
   (`without_without`). -/
namespace Worksheet

/-- What a list without repetition holds is as many things as the list is long. -/
theorem ncard_eq_length {α : Type} {l : List α} {p : α → Prop} (hl : l.Nodup)
    (hmem : ∀ x, x ∈ l ↔ p x) : {x | p x}.ncard = l.length := by
  classical
  have hset : {x | p x} = ↑l.toFinset := by
    ext x
    rw [Finset.mem_coe, List.mem_toFinset, hmem]
    rfl
  rw [hset, Set.ncard_coe_finset, List.toFinset_card_of_nodup hl]

namespace Adjacency

/-- In a map in which every name has a neighbour no name has the empty set. -/
theorem ne_empty {m : Adjacency} (hm : ∀ a ∈ m, ∃ b, b ∈ neighbours m a) {a : String}
    {names : NameSet} (h : m[a]? = some names) : names ≠ ∅ := by
  have ha : a ∈ m := Std.ExtTreeMap.mem_iff_isSome_getElem?.mpr (h ▸ rfl)
  obtain ⟨b, hb⟩ := hm a ha
  rintro rfl
  rw [getElem?_of_mem ha] at h
  exact Std.ExtTreeSet.not_mem_empty (Option.some.inj h ▸ hb)

/-- Every link is listed once: the names are distinct, and so are the neighbours of each. -/
theorem nodup_links (m : Adjacency) : (links m).Nodup := by
  rw [links, List.nodup_flatMap]
  constructor
  · rintro ⟨name, others⟩ _
    exact (NameSet.nodup_toList others).map fun _ _ h => (Prod.mk.inj h).2
  · refine Std.ExtTreeMap.distinct_keys_toList.imp fun {x y} hne => ?_
    rintro ⟨a, b⟩ hx hy
    obtain ⟨_, _, heq⟩ := List.mem_map.mp hx
    obtain ⟨_, _, heq'⟩ := List.mem_map.mp hy
    have hname : x.1 = y.1 := (Prod.mk.inj (heq.trans heq'.symm)).1
    exact hne (Std.LawfulEqCmp.compare_eq_iff_eq.mpr hname)

/-- There are as many links as the names have neighbours. -/
theorem length_links (m : Adjacency) :
    (links m).length = (m.toList.map fun e => e.2.size).sum := by
  simp [links, List.length_flatMap, Std.ExtTreeSet.length_toList]

end Adjacency

namespace Graph

theorem nodup_edges (g : Graph) : g.edges.Nodup := Adjacency.nodup_links g.reads

/-- The edges as the readers of each name tell them are the edges, turned round. -/
theorem WellFormed.perm_readers {g : Graph} (h : g.WellFormed) :
    (g.edges.map Prod.swap).Perm (Adjacency.links g.readers) := by
  have hswap : (g.edges.map Prod.swap).Nodup := g.nodup_edges.map Prod.swap_injective
  refine (List.perm_ext_iff_of_nodup hswap (Adjacency.nodup_links g.readers)).mpr ?_
  rintro ⟨b, a⟩
  rw [Adjacency.mem_links, List.mem_map]
  constructor
  · rintro ⟨⟨reader, name⟩, hmem, heq⟩
    obtain ⟨rfl, rfl⟩ := Prod.mk.inj heq
    exact (h.mirror reader name).mp (mem_edges.mp hmem)
  · intro hread
    exact ⟨(a, b), mem_edges.mpr ((h.mirror a b).mpr hread), rfl⟩

/-- The edges are counted from either side. -/
theorem WellFormed.edgeCount_eq {g : Graph} (h : g.WellFormed) :
    g.edgeCount = (g.readers.toList.map fun e => e.2.size).sum := by
  rw [← Adjacency.length_links, ← h.perm_readers.length_eq, List.length_map, edgeCount]

/-- Their count is the number of pairs of a name and one that it reads. -/
theorem ncard_reads (g : Graph) : {e : String × String | g.Reads e.1 e.2}.ncard = g.edgeCount :=
  ncard_eq_length g.nodup_edges fun _ => mem_edges

/-- Names can be removed in two steps or at once. -/
theorem without_without (g : Graph) (s t : NameSet) :
    (g.without s).without t = g.without (s ∪ t) := by
  refine (WellFormed.without _ t).ext (.without g (s ∪ t)) (fun a => ?_) (fun a b => ?_)
  · rw [Bool.eq_iff_iff]
    simp only [isDeclared_without, Std.ExtTreeSet.mem_union_iff, not_or, and_assoc]
  · simp only [reads_without, Std.ExtTreeSet.mem_union_iff, not_or]
    constructor
    · rintro ⟨⟨hread, has, hbs⟩, hat, hbt⟩
      exact ⟨hread, ⟨has, hat⟩, hbs, hbt⟩
    · rintro ⟨hread, ⟨has, hat⟩, hbs, hbt⟩
      exact ⟨⟨hread, has, hbs⟩, hat, hbt⟩

/-- For every graph that the operations build: the two maps hold the same edges, and neither
has a name without a neighbour. Two such graphs are equal exactly if they declare the same
names and have the same edges. The count of the edges is their number, as it is told by what
each name reads and by the readers of each name. What is left without some names declares
the other names and has the edges between other names; names can be removed in two steps or
at once, and removing none changes nothing. -/
theorem build_canonical (ops : List Operation) :
    let g := build ops
    (∀ a b, b ∈ g.dependencies a ↔ a ∈ g.dependents b) ∧
    (∀ (a : String) (names : NameSet), g.reads[a]? = some names → names ≠ ∅) ∧
    (∀ (b : String) (names : NameSet), g.readers[b]? = some names → names ≠ ∅) ∧
    (∀ ops', g = build ops' ↔ (∀ a, g.isDeclared a = (build ops').isDeclared a) ∧
      ∀ a b, g.Reads a b ↔ (build ops').Reads a b) ∧
    (g.edgeCount = {e : String × String | g.Reads e.1 e.2}.ncard ∧
      g.edgeCount = (g.reads.toList.map fun e => e.2.size).sum ∧
      g.edgeCount = (g.readers.toList.map fun e => e.2.size).sum) ∧
    (∀ removed, (∀ a, (g.without removed).isDeclared a = true ↔
        g.isDeclared a = true ∧ a ∉ removed) ∧
      ∀ a b, (g.without removed).Reads a b ↔ g.Reads a b ∧ a ∉ removed ∧ b ∉ removed) ∧
    (∀ s t, (g.without s).without t = g.without (s ∪ t)) ∧
    g.without ∅ = g := by
  intro g
  have hw : g.WellFormed := wellFormed_build ops
  refine ⟨hw.mirror, fun a names h => ?_, fun b names h => ?_, fun ops' => ⟨?_, ?_⟩,
    ⟨(ncard_reads g).symm, Adjacency.length_links g.reads, hw.edgeCount_eq⟩,
    fun removed => ⟨fun a => isDeclared_without, fun a b => reads_without⟩,
    without_without g, hw.without_empty⟩
  · exact Adjacency.ne_empty hw.reads_ne h
  · exact Adjacency.ne_empty hw.readers_ne h
  · intro heq
    rw [← heq]
    exact ⟨fun _ => rfl, fun _ _ => Iff.rfl⟩
  · rintro ⟨hdeclared, hreads⟩
    exact hw.ext (wellFormed_build ops') hdeclared hreads

/-- An edge that is added twice is one edge. -/
example : (build [.addEdge "a" "b", .addEdge "c" "b", .addEdge "a" "b"]).edgeCount = 2 := by
  decide +kernel

end Graph

end Worksheet
