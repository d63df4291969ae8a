import Mathlib.Logic.Relation
import Mathlib.Tactic.ByContra
import Worksheet.Graph.Basic

/- Worksheet Edges — which edges a graph has after each operation.

   `Reads g a b` says that there is an edge from `a` to `b`; paths are its
   closures. Each operation has one lemma that gives the edges after it and one
   that gives the declared names after it. From these, every graph that the
   operations build holds each edge in both directions and keeps no name without
   a neighbour (`wellFormed_build`), whatever the order of the operations. Such a
   graph is given by its declared names and its edges (`WellFormed.ext`). -/
namespace Worksheet

namespace NameSet

theorem mem_insert {s : NameSet} {a b : String} : b ∈ s.insert a ↔ a = b ∨ b ∈ s := by
  rw [Std.ExtTreeSet.mem_insert, Std.LawfulEqCmp.compare_eq_iff_eq]

theorem mem_insertMany {s : NameSet} {l : List String} {b : String} :
    b ∈ s.insertMany l ↔ b ∈ l ∨ b ∈ s := by
  rw [Std.ExtTreeSet.mem_insertMany_list, List.contains_iff_mem, or_comm]

theorem contains_insert {s : NameSet} {a b : String} :
    (s.insert a).contains b = (a == b || s.contains b) := by
  rw [Bool.eq_iff_iff, Bool.or_eq_true, beq_iff_eq]
  exact mem_insert

theorem nodup_toList (s : NameSet) : s.toList.Nodup := by
  refine List.Pairwise.imp (fun h heq => ?_) Std.ExtTreeSet.distinct_toList
  exact h (Std.LawfulEqCmp.compare_eq_iff_eq.mpr heq)

end NameSet

namespace Adjacency

/-- A name that has a neighbour is a key. -/
theorem mem_of_mem_neighbours {m : Adjacency} {a b : String} (h : b ∈ neighbours m a) : a ∈ m := by
  by_contra hm
  rw [neighbours, Std.ExtTreeMap.getD_eq_fallback hm] at h
  exact Std.ExtTreeSet.not_mem_empty h

theorem mem_neighbours_link {m : Adjacency} {name other a b : String} :
    b ∈ neighbours (link m name other) a ↔ (name = a ∧ other = b) ∨ b ∈ neighbours m a := by
  rw [neighbours_link]
  by_cases h : name = a
  · subst h
    rw [if_pos rfl, NameSet.mem_insert]
    simp
  · simp [h]

theorem getElem?_of_mem {m : Adjacency} {a : String} (h : a ∈ m) :
    m[a]? = some (neighbours m a) := by
  rw [neighbours, Std.ExtTreeMap.getD_eq_getD_getElem?,
    Std.ExtTreeMap.getElem?_eq_some_getElem h, Option.getD_some]

/-- The links of a map: each name with each of its neighbours. -/
def links (m : Adjacency) : List (String × String) :=
  m.toList.flatMap fun (name, others) => others.toList.map fun other => (name, other)

theorem mem_links {m : Adjacency} {a b : String} : (a, b) ∈ links m ↔ b ∈ neighbours m a := by
  simp only [links, List.mem_flatMap, List.mem_map, Prod.mk.injEq, Prod.exists,
    Std.ExtTreeSet.mem_toList, Std.ExtTreeMap.mem_toList_iff_getElem?_eq_some]
  constructor
  · rintro ⟨name, others, hm, other, ho, rfl, rfl⟩
    rwa [neighbours, Std.ExtTreeMap.getD_eq_getD_getElem?, hm]
  · intro h
    exact ⟨a, neighbours m a, getElem?_of_mem (mem_of_mem_neighbours h), b, h, rfl, rfl⟩

/-- Two maps in which every name has a neighbour are equal if they have the same
neighbours. -/
theorem ext {m m' : Adjacency} (hm : ∀ a ∈ m, ∃ b, b ∈ neighbours m a)
    (hm' : ∀ a ∈ m', ∃ b, b ∈ neighbours m' a)
    (h : ∀ a b, b ∈ neighbours m a ↔ b ∈ neighbours m' a) : m = m' := by
  have hmem : ∀ a, a ∈ m ↔ a ∈ m' := by
    intro a
    constructor
    · intro ha
      obtain ⟨b, hb⟩ := hm a ha
      exact mem_of_mem_neighbours ((h a b).mp hb)
    · intro ha
      obtain ⟨b, hb⟩ := hm' a ha
      exact mem_of_mem_neighbours ((h a b).mpr hb)
  apply Std.ExtTreeMap.ext_getElem?
  intro a
  by_cases ha : a ∈ m
  · have hset : neighbours m a = neighbours m' a := Std.ExtTreeSet.ext_mem (h a)
    rw [getElem?_of_mem ha, getElem?_of_mem ((hmem a).mp ha), hset]
  · rw [Std.ExtTreeMap.getElem?_eq_none ha, Std.ExtTreeMap.getElem?_eq_none (mt (hmem a).mpr ha)]

end Adjacency

namespace Graph

/-- There is an edge from `a` to `b`. -/
def Reads (g : Graph) (a b : String) : Prop := b ∈ g.dependencies a

/-- There is a path of any number of edges, possibly none. -/
abbrev Leads (g : Graph) : String → String → Prop := Relation.ReflTransGen g.Reads

/-- There is a path of one edge or more. -/
abbrev Depends (g : Graph) : String → String → Prop := Relation.TransGen g.Reads

/-- A path of one edge or more leads from the name back to it. -/
def OnCycle (g : Graph) (name : String) : Prop := g.Depends name name

/-! ## Edges after an operation -/

@[simp] theorem not_reads_empty (a b : String) : ¬ Reads ∅ a b := Std.ExtTreeSet.not_mem_empty

@[simp] theorem reads_declare {g : Graph} {name a b : String} :
    (g.declare name).Reads a b ↔ g.Reads a b := Iff.rfl

theorem reads_addEdge {g : Graph} {reader name a b : String} :
    (g.addEdge reader name).Reads a b ↔ (reader = a ∧ name = b) ∨ g.Reads a b :=
  Adjacency.mem_neighbours_link

theorem reads_addEdges {es : List (String × String)} {g : Graph} {a b : String} :
    (es.foldl (fun g e => g.addEdge e.1 e.2) g).Reads a b ↔ (a, b) ∈ es ∨ g.Reads a b := by
  induction es generalizing g with
  | nil => simp
  | cons e es ih =>
    obtain ⟨reader, name⟩ := e
    rw [List.foldl_cons, ih, reads_addEdge, List.mem_cons, Prod.mk.injEq]
    constructor
    · rintro (h | ⟨rfl, rfl⟩ | h)
      · exact .inl (.inr h)
      · exact .inl (.inl ⟨rfl, rfl⟩)
      · exact .inr h
    · rintro ((⟨rfl, rfl⟩ | h) | h)
      · exact .inr (.inl ⟨rfl, rfl⟩)
      · exact .inl h
      · exact .inr (.inr h)

theorem addFormula_eq (g : Graph) (name : String) (e : Expr) :
    g.addFormula name e =
      (e.references.map (name, ·)).foldl (fun g e => g.addEdge e.1 e.2) (g.declare name) := by
  rw [addFormula, List.foldl_map]

theorem reads_addFormula {g : Graph} {name a b : String} {e : Expr} :
    (g.addFormula name e).Reads a b ↔ (a = name ∧ b ∈ e.references) ∨ g.Reads a b := by
  rw [addFormula_eq, reads_addEdges, reads_declare, List.mem_map]
  simp only [Prod.mk.injEq]
  constructor
  · rintro (⟨r, hr, rfl, rfl⟩ | h)
    · exact .inl ⟨rfl, hr⟩
    · exact .inr h
  · rintro (⟨rfl, hr⟩ | h)
    · exact .inl ⟨b, hr, rfl, rfl⟩
    · exact .inr h

theorem mem_edges {g : Graph} {a b : String} : (a, b) ∈ g.edges ↔ g.Reads a b :=
  Adjacency.mem_links

@[simp] theorem isDeclared_empty (a : String) : isDeclared ∅ a = false :=
  Std.ExtTreeSet.contains_empty

theorem isDeclared_declareAll {names : List String} {g : Graph} {a : String} :
    (names.foldl declare g).isDeclared a = true ↔ a ∈ names ∨ g.isDeclared a = true := by
  induction names generalizing g with
  | nil => simp
  | cons name names ih =>
    rw [List.foldl_cons, ih, isDeclared_declare, Bool.or_eq_true, beq_iff_eq, List.mem_cons]
    constructor
    · rintro (h | rfl | h)
      · exact .inl (.inr h)
      · exact .inl (.inl rfl)
      · exact .inr h
    · rintro ((rfl | h) | h)
      · exact .inr (.inl rfl)
      · exact .inl h
      · exact .inr (.inr h)

theorem reads_declareAll {names : List String} {g : Graph} {a b : String} :
    (names.foldl declare g).Reads a b ↔ g.Reads a b := by
  induction names generalizing g with
  | nil => rfl
  | cons name names ih => rw [List.foldl_cons, ih, reads_declare]

theorem isDeclared_addEdges {es : List (String × String)} {g : Graph} {a : String} :
    (es.foldl (fun g e => g.addEdge e.1 e.2) g).isDeclared a = g.isDeclared a := by
  induction es generalizing g with
  | nil => rfl
  | cons e es ih => rw [List.foldl_cons, ih]; rfl

theorem isDeclared_addFormula {g : Graph} {name a : String} {e : Expr} :
    (g.addFormula name e).isDeclared a = (name == a || g.isDeclared a) := by
  rw [addFormula_eq, isDeclared_addEdges, isDeclared_declare]

theorem without_eq (g : Graph) (removed : NameSet) :
    g.without removed =
      (g.edges.filter fun e => !removed.contains e.1 && !removed.contains e.2).foldl
        (fun g e => g.addEdge e.1 e.2)
        ((g.nodes.toList.filter (!removed.contains ·)).foldl declare ∅) := rfl

theorem reads_without {g : Graph} {removed : NameSet} {a b : String} :
    (g.without removed).Reads a b ↔ g.Reads a b ∧ a ∉ removed ∧ b ∉ removed := by
  rw [without_eq, reads_addEdges, reads_declareAll, List.mem_filter, mem_edges]
  simp [← Std.ExtTreeSet.contains_iff_mem]

theorem isDeclared_without {g : Graph} {removed : NameSet} {a : String} :
    (g.without removed).isDeclared a = true ↔ g.isDeclared a = true ∧ a ∉ removed := by
  rw [without_eq, isDeclared_addEdges, isDeclared_declareAll, List.mem_filter,
    Std.ExtTreeSet.mem_toList]
  rw [isDeclared_empty]
  simp [isDeclared, ← Std.ExtTreeSet.contains_iff_mem]

/-- A cycle that is left is one of the whole graph, and none of its names was removed. -/
theorem OnCycle.of_without {g : Graph} {removed : NameSet} {x : String}
    (h : (g.without removed).OnCycle x) : g.OnCycle x ∧ x ∉ removed := by
  have hle : (g.without removed).Reads ≤ g.Reads := fun a b hab => (reads_without.mp hab).1
  refine ⟨Relation.TransGen.mono hle x x h, ?_⟩
  obtain ⟨b, hread, -⟩ := Relation.TransGen.head'_iff.mp h
  exact (reads_without.mp hread).2.1

/-! ## Both directions -/

/-- Each edge is held in both directions, and a name is a key only if it has a
neighbour. -/
structure WellFormed (g : Graph) : Prop where
  mirror : ∀ a b, b ∈ g.dependencies a ↔ a ∈ g.dependents b
  reads_ne : ∀ a ∈ g.reads, ∃ b, b ∈ g.dependencies a
  readers_ne : ∀ b ∈ g.readers, ∃ a, a ∈ g.dependents b

namespace WellFormed

theorem empty : WellFormed ∅ where
  mirror _ _ := iff_of_false Std.ExtTreeSet.not_mem_empty Std.ExtTreeSet.not_mem_empty
  reads_ne _ h := absurd h Std.ExtTreeMap.not_mem_empty
  readers_ne _ h := absurd h Std.ExtTreeMap.not_mem_empty

theorem declare {g : Graph} (h : g.WellFormed) (name : String) : (g.declare name).WellFormed :=
  ⟨h.mirror, h.reads_ne, h.readers_ne⟩

/-- A key of a map with one more link is the linked name or was a key before. -/
theorem link_ne {m : Adjacency} (h : ∀ a ∈ m, ∃ b, b ∈ Adjacency.neighbours m a)
    (name other : String) :
    ∀ a ∈ Adjacency.link m name other, ∃ b, b ∈ Adjacency.neighbours (.link m name other) a := by
  intro a ha
  rcases Std.ExtTreeMap.mem_insert.mp ha with hn | ha
  · exact ⟨other, Adjacency.mem_neighbours_link.mpr
      (.inl ⟨Std.LawfulEqCmp.compare_eq_iff_eq.mp hn, rfl⟩)⟩
  · obtain ⟨b, hb⟩ := h a ha
    exact ⟨b, Adjacency.mem_neighbours_link.mpr (.inr hb)⟩

theorem addEdge {g : Graph} (h : g.WellFormed) (reader name : String) :
    (g.addEdge reader name).WellFormed where
  mirror a b := by
    show b ∈ Adjacency.neighbours (.link g.reads reader name) a ↔
      a ∈ Adjacency.neighbours (.link g.readers name reader) b
    rw [Adjacency.mem_neighbours_link, Adjacency.mem_neighbours_link, and_comm]
    exact or_congr_right (h.mirror a b)
  reads_ne := link_ne h.reads_ne reader name
  readers_ne := link_ne h.readers_ne name reader

theorem addEdges {g : Graph} (h : g.WellFormed) (es : List (String × String)) :
    (es.foldl (fun g e => g.addEdge e.1 e.2) g).WellFormed := by
  induction es generalizing g with
  | nil => exact h
  | cons e es ih => exact ih (h.addEdge e.1 e.2)

theorem addFormula {g : Graph} (h : g.WellFormed) (name : String) (e : Expr) :
    (g.addFormula name e).WellFormed := by
  rw [addFormula_eq]
  exact (h.declare name).addEdges _

theorem declareAll {g : Graph} (h : g.WellFormed) (names : List String) :
    (names.foldl Graph.declare g).WellFormed := by
  induction names generalizing g with
  | nil => exact h
  | cons name names ih => exact ih (h.declare name)

/-- What is left of a graph is built anew, so nothing is asked of the graph. -/
theorem without (g : Graph) (removed : NameSet) : (g.without removed).WellFormed := by
  rw [without_eq]
  exact (empty.declareAll _).addEdges _

/-- A graph that holds its edges in both directions is given by its declared names and
its edges. -/
theorem ext {g g' : Graph} (h : g.WellFormed) (h' : g'.WellFormed)
    (hdeclared : ∀ a, g.isDeclared a = g'.isDeclared a)
    (hreads : ∀ a b, g.Reads a b ↔ g'.Reads a b) : g = g' := by
  have hnodes : g.nodes = g'.nodes := by
    apply Std.ExtTreeSet.ext_mem
    intro a
    have ha : g.nodes.contains a = g'.nodes.contains a := hdeclared a
    rw [Std.ExtTreeSet.mem_iff_contains, Std.ExtTreeSet.mem_iff_contains, ha]
  have hout : g.reads = g'.reads := Adjacency.ext h.reads_ne h'.reads_ne hreads
  have hin : g.readers = g'.readers := by
    refine Adjacency.ext h.readers_ne h'.readers_ne fun b a => ?_
    calc a ∈ g.dependents b ↔ g.Reads a b := (h.mirror a b).symm
      _ ↔ g'.Reads a b := hreads a b
      _ ↔ a ∈ g'.dependents b := h'.mirror a b
  cases g
  cases g'
  exact (Graph.mk.injEq ..).mpr ⟨hnodes, hout, hin⟩

theorem without_empty {g : Graph} (h : g.WellFormed) : g.without ∅ = g := by
  refine (without g ∅).ext h (fun a => ?_) (fun a b => ?_)
  · rw [Bool.eq_iff_iff, isDeclared_without]
    exact and_iff_left Std.ExtTreeSet.not_mem_empty
  · rw [reads_without]
    exact and_iff_left ⟨Std.ExtTreeSet.not_mem_empty, Std.ExtTreeSet.not_mem_empty⟩

end WellFormed

/-! ## Graphs by their operations -/

/-- An operation on a graph. -/
inductive Operation where
  | declare (name : String)
  | addEdge (reader name : String)
  | addFormula (name : String) (e : Expr)
  | without (removed : NameSet)

/-- The graph after an operation. -/
def apply (g : Graph) : Operation → Graph
  | .declare name => g.declare name
  | .addEdge reader name => g.addEdge reader name
  | .addFormula name e => g.addFormula name e
  | .without removed => g.without removed

/-- The graph that a sequence of operations builds. -/
def build (ops : List Operation) : Graph := ops.foldl apply ∅

theorem WellFormed.apply {g : Graph} (h : g.WellFormed) (op : Operation) :
    (g.apply op).WellFormed := by
  cases op with
  | declare name => exact h.declare name
  | addEdge reader name => exact h.addEdge reader name
  | addFormula name e => exact h.addFormula name e
  | without removed => exact .without g removed

theorem wellFormed_build (ops : List Operation) : (build ops).WellFormed := by
  have run : ∀ (ops : List Operation) (g : Graph), g.WellFormed → (ops.foldl apply g).WellFormed := by
    intro ops
    induction ops with
    | nil => intro g h; exact h
    | cons op ops ih => intro g h; exact ih _ (h.apply op)
  exact run ops ∅ .empty

/-! ## The names of a graph -/

theorem mem_allNodes {g : Graph} {a : String} :
    a ∈ g.allNodes ↔ g.isDeclared a = true ∨ a ∈ g.readers := by
  rw [allNodes, NameSet.mem_insertMany, dangling, List.mem_filter, Std.ExtTreeMap.mem_keys,
    Std.ExtTreeSet.mem_iff_contains]
  show _ ∨ g.isDeclared a = true ↔ _
  cases g.isDeclared a <;> simp

theorem mem_everyName {g : Graph} {a : String} :
    a ∈ g.everyName ↔ a ∈ g.allNodes ∨ a ∈ g.reads := by
  rw [everyName, NameSet.mem_insertMany, Std.ExtTreeMap.mem_keys, or_comm]

namespace WellFormed

variable {g : Graph} (h : g.WellFormed) {a b : String}

include h

theorem mem_readers_iff : b ∈ g.readers ↔ ∃ a, g.Reads a b := by
  constructor
  · intro hb
    obtain ⟨a, ha⟩ := h.readers_ne b hb
    exact ⟨a, (h.mirror a b).mpr ha⟩
  · rintro ⟨a, ha⟩
    exact Adjacency.mem_of_mem_neighbours ((h.mirror a b).mp ha)

theorem mem_allNodes_of_reads (hr : g.Reads a b) : b ∈ g.allNodes :=
  mem_allNodes.mpr (.inr (h.mem_readers_iff.mpr ⟨a, hr⟩))

theorem mem_everyName_of_reads (hr : g.Reads a b) : a ∈ g.everyName ∧ b ∈ g.everyName :=
  ⟨mem_everyName.mpr (.inr (Adjacency.mem_of_mem_neighbours hr)),
    mem_everyName.mpr (.inl (h.mem_allNodes_of_reads hr))⟩

/-- A name occurs if it is declared or at an end of an edge. -/
theorem mem_everyName_iff :
    a ∈ g.everyName ↔ g.isDeclared a = true ∨ ∃ b, g.Reads a b ∨ g.Reads b a := by
  rw [mem_everyName, mem_allNodes, h.mem_readers_iff]
  constructor
  · rintro ((hd | ⟨b, hb⟩) | ha)
    · exact .inl hd
    · exact .inr ⟨b, .inr hb⟩
    · obtain ⟨b, hb⟩ := h.reads_ne a ha
      exact .inr ⟨b, .inl hb⟩
  · rintro (hd | ⟨b, hb | hb⟩)
    · exact .inl (.inl hd)
    · exact .inr (Adjacency.mem_of_mem_neighbours hb)
    · exact .inl (.inr ⟨b, hb⟩)

end WellFormed

end Graph

end Worksheet
