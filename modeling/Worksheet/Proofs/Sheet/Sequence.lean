import Worksheet.Proofs.Field.Binding
import Worksheet.Proofs.Graph.Component
import Worksheet.Proofs.Graph.Order
import Worksheet.Sheet.Basic

/- Worksheet Sequences — what a sheet made from a template knows about it.

   A full pass visits the names on a cycle and then all other bound names, each
   after what it reads. The order comes from the whole graph if that has one, and
   otherwise from the graph without the names on a cycle, which always has one:
   a cycle that is left would be a cycle of the whole graph. Where nothing is on a
   cycle nothing is removed, so both ways are one (`Sheet.sequence_spec`): the order
   is the order of what is left without the names on a cycle. -/
namespace Worksheet

namespace Graph

/-- Each name of the list occurs once, and unless it is cyclic it reads neither
itself nor a name after it. -/
inductive Sequenced (g : Graph) (cyclic : NameSet) : List String → Prop
  | nil : Sequenced g cyclic []
  | cons {name : String} {names : List String} (fresh : name ∉ names)
      (reads : name ∉ cyclic → ∀ n, g.Reads name n → n ∉ name :: names)
      (rest : Sequenced g cyclic names) : Sequenced g cyclic (name :: names)

variable {g : Graph} {cyclic : NameSet}

/-- A part of a sequence is a sequence. -/
theorem Sequenced.sublist {names names' : List String} (h : Sequenced g cyclic names)
    (hsub : names'.Sublist names) : Sequenced g cyclic names' := by
  induction h generalizing names' with
  | nil =>
    rw [List.sublist_nil.mp hsub]
    exact .nil
  | cons fresh reads rest ih =>
    cases hsub with
    | cons _ hsub => exact ih hsub
    | cons_cons _ hsub =>
      refine .cons (fun hname => fresh (hsub.subset hname)) ?_ (ih hsub)
      intro hc n hread hn
      exact reads hc n hread ((hsub.cons_cons _).subset hn)

theorem Sequenced.nodup {names : List String} (h : Sequenced g cyclic names) : names.Nodup := by
  induction h with
  | nil => exact .nil
  | cons fresh _ _ ih => exact List.nodup_cons.mpr ⟨fresh, ih⟩

/-- In a sequence a name that is not cyclic stands after all that it reads. -/
theorem Sequenced.idxOf_lt {names : List String} (h : Sequenced g cyclic names) {a n : String}
    (ha : a ∈ names) (hn : n ∈ names) (hcyclic : a ∉ cyclic) (hread : g.Reads a n) :
    names.idxOf n < names.idxOf a := by
  induction h with
  | nil => cases ha
  | @cons name names fresh reads rest ih =>
    rcases List.mem_cons.mp ha with rfl | ha
    · exact absurd hn (reads hcyclic n hread)
    · have hname : name ≠ a := fun heq => fresh (heq ▸ ha)
      rw [List.idxOf_cons_ne _ hname]
      rcases List.mem_cons.mp hn with rfl | hn
      · rw [List.idxOf_cons_self]
        omega
      · have hother : name ≠ n := fun heq => fresh (heq ▸ hn)
        rw [List.idxOf_cons_ne _ hother]
        exact Nat.succ_lt_succ (ih ha hn)

/-- An order of the graph that is left without the cyclic names is a sequence. -/
theorem Ordered.sequenced {order : List String} (h : Ordered (g.without cyclic) order)
    (hapart : ∀ x ∈ order, x ∉ cyclic) : Sequenced g cyclic order := by
  induction h with
  | nil => exact .nil
  | cons fresh readers rest ih =>
    refine .cons fresh ?_ (ih fun x hx => hapart x (List.mem_cons_of_mem _ hx))
    intro hname n hread hn
    have hread' := reads_without.mpr ⟨hread, hname, hapart n hn⟩
    rcases List.mem_cons.mp hn with rfl | hn
    · exact fresh (readers n hread')
    · exact fresh (rest.readers_mem n hn _ hread')

/-- Cyclic names may stand in front of a sequence in any order. -/
theorem Sequenced.prepend {names order : List String} (h : Sequenced g cyclic order)
    (hnodup : names.Nodup) (hcyclic : ∀ x ∈ names, x ∈ cyclic)
    (hapart : ∀ x ∈ order, x ∉ cyclic) : Sequenced g cyclic (names ++ order) := by
  induction names with
  | nil => exact h
  | cons name names ih =>
    obtain ⟨hfresh, hnodup⟩ := List.nodup_cons.mp hnodup
    have hname : name ∈ cyclic := hcyclic name List.mem_cons_self
    refine .cons ?_ (fun hc => absurd hname hc)
      (ih hnodup fun x hx => hcyclic x (List.mem_cons_of_mem name hx))
    intro hmem
    rcases List.mem_append.mp hmem with hmem | hmem
    · exact hfresh hmem
    · exact hapart name hmem hname

/-- A cycle that is left is one of the whole graph, and its names were removed. -/
theorem not_onCycle_without (hcyclic : ∀ x, x ∈ cyclic ↔ g.OnCycle x) (x : String) :
    ¬ (g.without cyclic).OnCycle x := by
  intro hx
  obtain ⟨hcycle, hkept⟩ := hx.of_without
  exact hkept ((hcyclic x).mpr hcycle)

/-- The names that are left: those that are not removed and that are declared or have
an edge to a name that is not removed. -/
theorem mem_everyName_without {x : String} :
    x ∈ (g.without cyclic).everyName ↔
      x ∉ cyclic ∧ (g.isDeclared x = true ∨ ∃ y, y ∉ cyclic ∧ (g.Reads x y ∨ g.Reads y x)) := by
  rw [(WellFormed.without g cyclic).mem_everyName_iff, isDeclared_without]
  simp only [reads_without]
  constructor
  · rintro (⟨hd, hx⟩ | ⟨y, ⟨hread, hx, hy⟩ | ⟨hread, hy, hx⟩⟩)
    · exact ⟨hx, .inl hd⟩
    · exact ⟨hx, .inr ⟨y, hy, .inl hread⟩⟩
    · exact ⟨hx, .inr ⟨y, hy, .inr hread⟩⟩
  · rintro ⟨hx, hd | ⟨y, hy, hread | hread⟩⟩
    · exact .inl ⟨hd, hx⟩
    · exact .inr ⟨y, .inl ⟨hread, hx, hy⟩⟩
    · exact .inr ⟨y, .inr ⟨hread, hy, hx⟩⟩

/-- What a sequence of visits is for: the names on a cycle are known, the visits are
in sequence, and every declared name is visited. -/
structure Plan (g : Graph) (cyclic : NameSet) (order : List String) : Prop where
  mem_cyclic : ∀ x, x ∈ cyclic ↔ g.OnCycle x
  sequenced : Sequenced g cyclic (cyclic.toList ++ order)
  covers : ∀ x, g.isDeclared x = true → x ∈ cyclic.toList ++ order

end Graph

namespace Sheet

section

variable {g : Graph} (hw : g.WellFormed) (hdeclared : ∀ a b, g.Reads a b → g.isDeclared a = true)

include hw hdeclared

/-- The names on a cycle are found, and the graph without them has the order. -/
theorem sequence_spec :
    (∀ x, x ∈ (sequence g).1 ↔ g.OnCycle x) ∧
      (g.without (sequence g).1).topologicalOrder = some (sequence g).2 := by
  rw [sequence]
  cases horder : g.topologicalOrder with
  | some order =>
    have hacyclic : ∀ x, ¬ g.OnCycle x := by
      intro x hx
      have hnone := hw.topologicalOrder_eq_none_iff.mpr ⟨x, hx⟩
      rw [horder] at hnone
      cases hnone
    refine ⟨fun x => iff_of_false Std.ExtTreeSet.not_mem_empty (hacyclic x), ?_⟩
    show (g.without ∅).topologicalOrder = some order
    rw [hw.without_empty, horder]
  | none =>
    have hcyclic : ∀ x, x ∈ g.cyclicReferences ↔ g.OnCycle x := fun _ =>
      hw.mem_cyclicReferences_iff_onCycle hdeclared
    refine ⟨hcyclic, ?_⟩
    show (g.without g.cyclicReferences).topologicalOrder =
      some ((g.without g.cyclicReferences).topologicalOrder.getD [])
    cases hleft : (g.without g.cyclicReferences).topologicalOrder with
    | some order => rfl
    | none =>
      obtain ⟨x, hx⟩ := (Graph.WellFormed.without g _).topologicalOrder_eq_none_iff.mp hleft
      exact absurd hx (Graph.not_onCycle_without hcyclic x)

/-- The order of what is left, and the names in it. -/
theorem ordered_sequence :
    Graph.Ordered (g.without (sequence g).1) (sequence g).2 ∧
      ∀ x, x ∈ (sequence g).2 ↔
        x ∉ (sequence g).1 ∧
          (g.isDeclared x = true ∨ ∃ a, a ∉ (sequence g).1 ∧ g.Reads a x) := by
  obtain ⟨-, horder⟩ := sequence_spec hw hdeclared
  obtain ⟨hordered, hmem⟩ :=
    (Graph.WellFormed.without g (sequence g).1).ordered_of_topologicalOrder horder
  refine ⟨hordered, fun x => ?_⟩
  rw [hmem, Graph.mem_everyName_without]
  constructor
  · rintro ⟨hx, hd | ⟨y, hy, hread | hread⟩⟩
    · exact ⟨hx, .inl hd⟩
    · exact ⟨hx, .inl (hdeclared x y hread)⟩
    · exact ⟨hx, .inr ⟨y, hy, hread⟩⟩
  · rintro ⟨hx, hd | ⟨y, hy, hread⟩⟩
    · exact ⟨hx, .inl hd⟩
    · exact ⟨hx, .inr ⟨y, hy, .inr hread⟩⟩

/-- A graph in which only declared names read others is planned. -/
theorem plan_sequence : g.Plan (sequence g).1 (sequence g).2 := by
  obtain ⟨hordered, hmem⟩ := ordered_sequence hw hdeclared
  have hapart : ∀ x ∈ (sequence g).2, x ∉ (sequence g).1 := fun x hx => ((hmem x).mp hx).1
  refine ⟨(sequence_spec hw hdeclared).1, ?_, fun x hx => ?_⟩
  · exact (hordered.sequenced hapart).prepend (NameSet.nodup_toList _)
      (fun x hx => Std.ExtTreeSet.mem_toList.mp hx) hapart
  · by_cases hc : x ∈ (sequence g).1
    · exact List.mem_append_left _ (Std.ExtTreeSet.mem_toList.mpr hc)
    · exact List.mem_append_right _ ((hmem x).mpr ⟨hc, .inl hx⟩)

end

/-! ## The cells of a template -/

/-- The cell at a name is that of the last binding of the name, or was there
before. -/
theorem getElem?_insertCells {bs : List Binding} (hnodup : (bs.map Binding.name).Nodup)
    (m : Std.ExtTreeMap String Cell) (name : String) (cell : Cell) :
    (bs.foldl (fun m b => m.insert b.name b.cell) m)[name]? = some cell ↔
      (∃ b ∈ bs, b.name = name ∧ b.cell = cell) ∨
        (∀ b ∈ bs, b.name ≠ name) ∧ m[name]? = some cell := by
  induction bs generalizing m with
  | nil => simp
  | cons b bs ih =>
    obtain ⟨hfresh, hnodup⟩ := List.nodup_cons.mp hnodup
    rw [List.foldl_cons, ih hnodup, Std.ExtTreeMap.getElem?_insert]
    simp only [Std.LawfulEqCmp.compare_eq_iff_eq, List.mem_cons, exists_eq_or_imp, forall_eq_or_imp]
    by_cases hname : b.name = name
    · subst hname
      -- no later binding has the name, so this one stays
      have hnone : ∀ x ∈ bs, x.name ≠ b.name := fun x hx heq =>
        hfresh (heq ▸ List.mem_map_of_mem hx)
      have hexists : ¬ ∃ x ∈ bs, x.name = b.name ∧ x.cell = cell := fun ⟨x, hx, heq, _⟩ =>
        hnone x hx heq
      simpa [hexists] using fun _ => hnone
    · simp [hname]

variable {fs : List Field}

/-- A sheet holds what the sequence of its graph says. -/
theorem ofFields_eq (fs : List Field) :
    ofFields fs =
      { cells := cellsOf (Field.bindings fs)
        graph := .ofFields fs
        cyclic := (sequence (.ofFields fs)).1
        order := (sequence (.ofFields fs)).2
        maxDepth := defaultMaxDepth } := by
  simp only [ofFields]

/-- A sheet starts with the nesting limit that is used where none is given. -/
theorem withMaxDepth_ofFields (fs : List Field) :
    (ofFields fs).withMaxDepth defaultMaxDepth = ofFields fs := by
  rw [ofFields_eq, withMaxDepth]

theorem graph_ofFields : (ofFields fs).graph = .ofFields fs := by rw [ofFields_eq]

theorem reads_graph : (ofFields fs).graph.Reads = Field.Reads fs := by
  rw [graph_ofFields, Graph.reads_ofFields_eq]

theorem isDeclared_graph {name : String} :
    (ofFields fs).graph.isDeclared name = true ↔ Field.Bound fs name := by
  rw [graph_ofFields, Graph.isDeclared_ofFields]

theorem mem_cyclic_ofFields {name : String} :
    name ∈ (ofFields fs).cyclic ↔ Field.OnCycle fs name := by
  rw [ofFields_eq, ← Graph.onCycle_ofFields]
  exact (sequence_spec Graph.wellFormed_ofFields fun _ _ => Graph.isDeclared_of_reads).1 name

/-- Being on a cycle is decided by making the sheet. -/
instance {name : String} : Decidable (Field.OnCycle fs name) :=
  decidable_of_iff (name ∈ (ofFields fs).cyclic) mem_cyclic_ofFields

theorem cell?_ofFields {name : String} {cell : Cell} :
    (ofFields fs).cell? name = some cell ↔
      ∃ b ∈ Field.bindings fs, b.name = name ∧ b.cell = cell := by
  rw [ofFields_eq]
  show (cellsOf (Field.bindings fs))[name]? = some cell ↔ _
  rw [cellsOf, getElem?_insertCells (Field.nodup_bindings fs)]
  simp

theorem cell?_ofFields_eq_none {name : String} :
    (ofFields fs).cell? name = none ↔ ¬ Field.Bound fs name := by
  rw [Option.eq_none_iff_forall_ne_some]
  constructor
  · rintro h ⟨b, hb, hname⟩
    exact h b.cell (cell?_ofFields.mpr ⟨b, hb, hname, rfl⟩)
  · intro h cell hcell
    obtain ⟨b, hb, hname, -⟩ := cell?_ofFields.mp hcell
    exact h ⟨b, hb, hname⟩

/-! ## Prepared sheets -/

/-- A sheet whose graph has the edges of its formulas and whose visits are planned;
nothing is asked of its nesting limit. -/
structure Prepared (s : Sheet) : Prop where
  wellFormed : s.graph.WellFormed
  reads_iff : ∀ a n, s.graph.Reads a n ↔ ∃ e, s.cell? a = some (.formula e) ∧ n ∈ e.references
  isDeclared_iff : ∀ a, s.graph.isDeclared a = true ↔ s.cell? a ≠ none
  plan : s.graph.Plan s.cyclic s.order

theorem prepared_ofFields : (ofFields fs).Prepared where
  wellFormed := by
    rw [graph_ofFields]
    exact Graph.wellFormed_ofFields
  reads_iff a n := by
    rw [reads_graph]
    constructor
    · rintro ⟨b, hb, hname, e, hcell, hn⟩
      exact ⟨e, cell?_ofFields.mpr ⟨b, hb, hname, hcell⟩, hn⟩
    · rintro ⟨e, hcell, hn⟩
      obtain ⟨b, hb, hname, hcell⟩ := cell?_ofFields.mp hcell
      exact ⟨b, hb, hname, e, hcell, hn⟩
  isDeclared_iff a := by
    rw [isDeclared_graph, ne_eq, cell?_ofFields_eq_none, not_not]
  plan := by
    rw [ofFields_eq]
    exact plan_sequence Graph.wellFormed_ofFields fun _ _ => Graph.isDeclared_of_reads

theorem Prepared.withMaxDepth {s : Sheet} (h : s.Prepared) (maxDepth : Nat) :
    (s.withMaxDepth maxDepth).Prepared := ⟨h.wellFormed, h.reads_iff, h.isDeclared_iff, h.plan⟩

end Sheet

end Worksheet
