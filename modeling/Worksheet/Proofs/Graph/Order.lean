import Mathlib.Data.List.Basic
import Worksheet.Graph.Order
import Worksheet.Proofs.Graph.DepthFirst

/- Worksheet Order Theory — the order holds every name after all it reads.

   An order is built from its end: a name is put in front of it once all its readers
   are in it (`Ordered`). The black names of the search are such an order throughout
   (`placeSpec_of_seeks`). Each name that is looked at depends on all names of the path, so
   when a name is met on the path again there is a cycle; and where there is a cycle
   no order holds one of its names (`Ordered.not_onCycle`).

   The search starts from the declared names and from those that are read. A name that
   is neither only reads, so it is met as a reader of what it reads. That is why the
   order holds every name of the graph (`WellFormed.ordered_of_topologicalOrder`). -/
namespace Worksheet.Graph

/-- Each name of the list occurs once, and its readers all occur after it. -/
inductive Ordered (g : Graph) : List String → Prop
  | nil : Ordered g []
  | cons {name : String} {order : List String} (fresh : name ∉ order)
      (readers : ∀ a, g.Reads a name → a ∈ order) (rest : Ordered g order) :
      Ordered g (name :: order)

namespace Ordered

variable {g : Graph} {order : List String}

theorem nodup (h : Ordered g order) : order.Nodup := by
  induction h with
  | nil => exact .nil
  | cons fresh _ _ ih => exact List.nodup_cons.mpr ⟨fresh, ih⟩

theorem readers_mem (h : Ordered g order) : ∀ b ∈ order, ∀ a, g.Reads a b → a ∈ order := by
  induction h with
  | nil => simp
  | cons _ readers _ ih =>
    intro b hb a ha
    rcases List.mem_cons.mp hb with rfl | hb
    · exact List.mem_cons_of_mem _ (readers a ha)
    · exact List.mem_cons_of_mem _ (ih b hb a ha)

theorem depends_mem (h : Ordered g order) {a b : String} (hb : b ∈ order) (hab : g.Depends a b) :
    a ∈ order := by
  induction hab using Relation.TransGen.head_induction_on with
  | single hread => exact h.readers_mem b hb _ hread
  | head hread _ ih => exact h.readers_mem _ ih _ hread

/-- No name of an order is on a cycle. -/
theorem not_onCycle (h : Ordered g order) : ∀ a ∈ order, ¬ g.OnCycle a := by
  induction h with
  | nil => simp
  | cons fresh readers rest ih =>
    intro a ha hcycle
    rcases List.mem_cons.mp ha with rfl | ha
    · obtain ⟨b, hab, hread⟩ := Relation.TransGen.tail'_iff.mp hcycle
      have hb := readers b hread
      rcases Relation.reflTransGen_iff_eq_or_transGen.mp hab with rfl | hab
      · exact fresh hb
      · exact fresh (rest.depends_mem hb hab)
    · exact ih a ha hcycle

/-- A name stands before each of its readers. -/
theorem idxOf_lt (h : Ordered g order) :
    ∀ b ∈ order, ∀ a, g.Reads a b → order.idxOf b < order.idxOf a := by
  induction h with
  | nil => simp
  | @cons name order fresh readers rest ih =>
    intro b hb a ha
    have hne : ∀ x ∈ order, name ≠ x := fun x hx heq => fresh (heq ▸ hx)
    rcases List.mem_cons.mp hb with rfl | hb
    · have hpos : List.idxOf a (b :: order) = order.idxOf a + 1 :=
        List.idxOf_cons_ne _ (hne a (readers a ha))
      rw [List.idxOf_cons_self, hpos]
      omega
    · have hread : a ∈ order := rest.readers_mem b hb a ha
      rw [List.idxOf_cons_ne _ (hne b hb), List.idxOf_cons_ne _ (hne a hread)]
      exact Nat.succ_lt_succ (ih b hb a ha)

end Ordered

/-- What a search leaves that started with `order` below the names of `path`. -/
structure Placed (g : Graph) (path order order' : List String) : Prop where
  ordered : Ordered g order'
  known : ∀ x ∈ order', x ∈ g.everyName
  kept : ∀ x ∈ order, x ∈ order'
  apart : ∀ p ∈ path, p ∉ order'

namespace Placed

variable {g : Graph} {path order order' order'' : List String} {name : String}

/-- The next search can start where one has ended. -/
theorem next (h : Placed g path order order') : Placed g path order' order' :=
  { h with kept := fun _ hx => hx }

theorem trans (h : Placed g path order order') (h' : Placed g path order' order'') :
    Placed g path order order'' :=
  { h' with kept := fun x hx => h'.kept x (h.kept x hx) }

/-- A name that is not in the order can come onto the path. -/
theorem push (h : Placed g path order order) (hfresh : name ∉ order) :
    Placed g (name :: path) order order :=
  { h with apart := List.forall_mem_cons.mpr ⟨hfresh, h.apart⟩ }

/-- A name of the path comes in front of an order that holds all its readers. -/
theorem put (h : Placed g (name :: path) order order') (hname : name ∈ g.everyName)
    (hnew : name ∉ path) (hreaders : ∀ a, g.Reads a name → a ∈ order') :
    Placed g path order (name :: order') where
  ordered := .cons (h.apart name List.mem_cons_self) hreaders h.ordered
  known := List.forall_mem_cons.mpr ⟨hname, h.known⟩
  kept x hx := List.mem_cons_of_mem name (h.kept x hx)
  apart p hp hmem := by
    rcases List.mem_cons.mp hmem with rfl | hmem
    · exact hnew hp
    · exact h.apart p (List.mem_cons_of_mem name hp) hmem

end Placed

/-- A name that a search looks at below a path: it depends on the whole path. -/
structure Trail (g : Graph) (path : List String) (name : String) : Prop where
  known : name ∈ g.everyName
  depends : ∀ p ∈ path, g.Depends name p

variable {g : Graph}

theorem Trail.start {name : String} (h : name ∈ g.everyName) : Trail g [] name :=
  ⟨h, List.forall_mem_nil _⟩

/-- The readers of a name are looked at with the name on the path. -/
theorem Trail.step (hw : g.WellFormed) {path : List String} {name reader : String}
    (h : Trail g path name) (hread : g.Reads reader name) : Trail g (name :: path) reader where
  known := (hw.mem_everyName_of_reads hread).1
  depends := List.forall_mem_cons.mpr ⟨.single hread, fun p hp => .head hread (h.depends p hp)⟩

/-- What is shown of a search: it finds a cycle, or it puts the names into the order. -/
def PlaceSpec (g : Graph) (path order : List String) (names : List String) :
    Option (List String) → Prop
  | none => ∃ x, g.OnCycle x
  | some order' => Placed g path order order' ∧ ∀ name ∈ names, name ∈ order'

/-- Searches that are made one after the other. -/
theorem PlaceSpec.cons {path order order' names : List String} {name : String}
    {found : Option (List String)} (hfirst : Placed g path order order') (hname : name ∈ order')
    (hrest : PlaceSpec g path order' names found) : PlaceSpec g path order (name :: names) found := by
  cases found with
  | none => exact hrest
  | some last =>
    obtain ⟨hplaced, hmem⟩ := hrest
    exact ⟨hfirst.trans hplaced, List.forall_mem_cons.mpr ⟨hplaced.kept name hname, hmem⟩⟩

/-- Whatever a search does by its rules, it finds a cycle or leaves an order. -/
theorem placeSpec_of_seeks (hw : g.WellFormed) {path order names : List String} {found : Found}
    (h : Seeks g.dependents path order names found)
    (htrail : ∀ name ∈ names, Trail g path name) (hstart : Placed g path order order) :
    PlaceSpec g path order names found.toOption := by
  have hreader : ∀ a name, a ∈ (g.dependents name).toList ↔ g.Reads a name := fun a name =>
    Std.ExtTreeSet.mem_toList.trans (hw.mirror a name).symm
  induction h with
  | nil => exact ⟨hstart, List.forall_mem_nil _⟩
  | met hmet _ ih => exact .cons hstart hmet (ih (List.forall_mem_cons.mp htrail).2 hstart)
  | @back _ _ _ name _ hback => exact ⟨name, (htrail name List.mem_cons_self).depends name hback⟩
  | @fail path order _ _ name hfresh _ _ ih =>
    have hname : Trail g path name := htrail name List.mem_cons_self
    exact ih (fun a ha => hname.step hw ((hreader a name).mp ha)) (hstart.push hfresh)
  | @visit path order order' names name _ hfresh hnew _ _ ihbelow ihrest =>
    obtain ⟨hname, hnames⟩ := List.forall_mem_cons.mp htrail
    -- the readers are searched for with the name on the path
    obtain ⟨hplaced, hmem⟩ :=
      ihbelow (fun a ha => hname.step hw ((hreader a name).mp ha)) (hstart.push hfresh)
    have hput : Placed g path order (name :: order') :=
      hplaced.put hname.known hnew fun a ha => hmem a ((hreader a name).mpr ha)
    exact .cons hput List.mem_cons_self (ihrest hnames hput.next)

/-- The whole search finds a cycle, or it leaves an order of the names that it starts
from and of all that are met. -/
theorem WellFormed.topologicalOrder_spec (h : g.WellFormed) :
    PlaceSpec g [] [] g.allNodes.toList.reverse g.topologicalOrder := by
  have hnext : ∀ a b, b ∈ g.dependents a → b ∈ g.everyName :=
    fun a b hb => (h.mem_everyName_of_reads ((h.mirror b a).mpr hb)).1
  have hstarts : ∀ n ∈ g.allNodes.toList.reverse, n ∈ g.everyName := fun n hn =>
    mem_everyName.mpr (.inl (Std.ExtTreeSet.mem_toList.mp (List.mem_reverse.mp hn)))
  have hspec := placeSpec_of_seeks h (DepthFirst.seeks_pass hnext hstarts)
    (fun n hn => .start (hstarts n hn)) ⟨.nil, by simp, fun _ hx => hx, by simp⟩
  rw [topologicalOrder]
  cases hpass : DepthFirst.pass g g.dependents g.allNodes.toList.reverse with
  | error cycle =>
    rw [hpass] at hspec
    exact hspec
  | ok last =>
    rw [hpass] at hspec
    exact hspec

/-- An order holds every name of the graph, each after what it reads. -/
theorem WellFormed.ordered_of_topologicalOrder (h : g.WellFormed) {order : List String}
    (horder : g.topologicalOrder = some order) :
    Ordered g order ∧ ∀ x, x ∈ order ↔ x ∈ g.everyName := by
  have hspec := h.topologicalOrder_spec
  rw [horder] at hspec
  obtain ⟨hplaced, hmem⟩ := hspec
  have hall : ∀ y ∈ g.allNodes, y ∈ order := fun y hy =>
    hmem y (List.mem_reverse.mpr (Std.ExtTreeSet.mem_toList.mpr hy))
  refine ⟨hplaced.ordered, fun x => ⟨hplaced.known x, fun hx => ?_⟩⟩
  rcases mem_everyName.mp hx with hx | hx
  · exact hall x hx
  · obtain ⟨b, hread⟩ := h.reads_ne x hx
    exact hplaced.ordered.readers_mem b (hall b (h.mem_allNodes_of_reads hread)) x hread

/-- There is no order exactly if there is a cycle. -/
theorem WellFormed.topologicalOrder_eq_none_iff (h : g.WellFormed) :
    g.topologicalOrder = none ↔ ∃ x, g.OnCycle x := by
  constructor
  · intro hnone
    have hspec := h.topologicalOrder_spec
    rw [hnone] at hspec
    exact hspec
  · rintro ⟨x, hx⟩
    cases horder : g.topologicalOrder with
    | none => rfl
    | some order =>
      obtain ⟨hordered, hmem⟩ := h.ordered_of_topologicalOrder horder
      obtain ⟨b, hread, -⟩ := Relation.TransGen.head'_iff.mp hx
      have hname : x ∈ order := (hmem x).mpr (h.mem_everyName_of_reads hread).1
      exact absurd hx (hordered.not_onCycle x hname)

/-- For every graph that the operations build: there is no order exactly if some name,
declared or not, is on a cycle; an order holds each declared name and each end of an
edge once and nothing else, and what is read stands before what reads it. -/
theorem topologicalOrder_build (ops : List Operation) :
    ((build ops).topologicalOrder = none ↔ ∃ x, (build ops).OnCycle x) ∧
    ∀ order, (build ops).topologicalOrder = some order →
      order.Nodup ∧
      (∀ x, x ∈ order ↔ (build ops).isDeclared x = true ∨
        ∃ y, (build ops).Reads x y ∨ (build ops).Reads y x) ∧
      ∀ reader name, (build ops).Reads reader name → order.idxOf name < order.idxOf reader := by
  have hw := wellFormed_build ops
  refine ⟨hw.topologicalOrder_eq_none_iff, fun order horder => ?_⟩
  obtain ⟨hordered, hmem⟩ := hw.ordered_of_topologicalOrder horder
  refine ⟨hordered.nodup, fun x => (hmem x).trans hw.mem_everyName_iff, ?_⟩
  intro reader name hread
  have hname : name ∈ order := (hmem name).mpr (hw.mem_everyName_of_reads hread).2
  exact hordered.idxOf_lt name hname reader hread

/-- No name but `a` is declared; `c` only reads, and `b` is only read. -/
example : (build [.declare "a", .addEdge "a" "b", .addEdge "c" "a"]).topologicalOrder =
    some ["b", "a", "c"] := by decide +kernel

end Worksheet.Graph
