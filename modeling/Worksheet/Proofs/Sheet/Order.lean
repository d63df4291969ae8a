import Worksheet.Proofs.Sheet.Incremental

/- Worksheet Evaluation Order Theory — which names the order of a sheet holds.

   A template of any fields gives the names on a cycle and an order of the names that
   are left without them. What is left has no cycle, so it has an order, and no name
   that a field declares is lost: it is on a cycle or in the order.

   A name that is read and not declared is in the graph by its edges alone. The edges
   at names on a cycle are removed, so such a name is in the order exactly if a name on
   no cycle reads it (`mem_order_ofFields`). Read by names on a cycle only, it is
   neither in the order nor on a cycle, and an incremental pass does not visit it. -/
namespace Worksheet.Sheet

variable {fs : List Field} {name reader : String}

/-- The order of what is left without the names on a cycle is the order of the sheet. -/
theorem topologicalOrder_left (fs : List Field) :
    ((ofFields fs).graph.without (ofFields fs).cyclic).topologicalOrder =
      some (ofFields fs).order := by
  rw [ofFields_eq]
  exact (sequence_spec Graph.wellFormed_ofFields fun _ _ => Graph.isDeclared_of_reads).2

theorem ordered_order (fs : List Field) :
    Graph.Ordered ((ofFields fs).graph.without (ofFields fs).cyclic) (ofFields fs).order :=
  ((Graph.WellFormed.without _ _).ordered_of_topologicalOrder (topologicalOrder_left fs)).1

/-- The order holds the names that are not on a cycle and that are bound or read by such
a name. -/
theorem mem_order_ofFields :
    name ∈ (ofFields fs).order ↔
      ¬ Field.OnCycle fs name ∧
        (Field.Bound fs name ∨ ∃ r, Field.Reads fs r name ∧ ¬ Field.OnCycle fs r) := by
  have hmem := (ordered_sequence (g := .ofFields fs) Graph.wellFormed_ofFields
    fun _ _ => Graph.isDeclared_of_reads).2 name
  have hcyclic : ∀ x, x ∈ (sequence (.ofFields fs)).1 ↔ Field.OnCycle fs x := by
    intro x
    rw [← mem_cyclic_ofFields, ofFields_eq]
  simp only [hcyclic, Graph.isDeclared_ofFields, Graph.reads_ofFields] at hmem
  rw [ofFields_eq, hmem]
  simp only [and_comm]

theorem mem_order_of_reads (hread : Field.Reads fs reader name)
    (hreader : reader ∈ (ofFields fs).order) (hname : ¬ Field.OnCycle fs name) :
    name ∈ (ofFields fs).order :=
  mem_order_ofFields.mpr ⟨hname, .inr ⟨reader, hread, (mem_order_ofFields.mp hreader).1⟩⟩

/-- Of two names in the order the one that is read stands before the one that reads it. -/
theorem idxOf_order_lt (hread : Field.Reads fs reader name)
    (hreader : reader ∈ (ofFields fs).order) (hname : name ∈ (ofFields fs).order) :
    (ofFields fs).order.idxOf name < (ofFields fs).order.idxOf reader := by
  have hkept : ∀ x ∈ (ofFields fs).order, x ∉ (ofFields fs).cyclic := fun x hx =>
    mt mem_cyclic_ofFields.mp (mem_order_ofFields.mp hx).1
  have hedge : (ofFields fs).graph.Reads reader name := reads_graph ▸ hread
  have hleft : ((ofFields fs).graph.without (ofFields fs).cyclic).Reads reader name :=
    Graph.reads_without.mpr ⟨hedge, hkept reader hreader, hkept name hname⟩
  exact (ordered_order fs).idxOf_lt name hname reader hleft

/-- For every template: the names on a cycle are known; the order has no repetition and
none of these names, but every other declared one, and what is read stands before what
reads it; and what is left without the names on a cycle has no cycle, and the order is
its order. -/
theorem order_ofFields (fs : List Field) :
    let s := ofFields fs
    (∀ x, x ∈ s.cyclic ↔ Field.OnCycle fs x) ∧
    s.order.Nodup ∧
    (∀ x ∈ s.order, x ∉ s.cyclic) ∧
    (∀ x, Field.Bound fs x → x ∉ s.cyclic → x ∈ s.order) ∧
    (∀ a b, Field.Reads fs a b → a ∈ s.order → b ∈ s.order → s.order.idxOf b < s.order.idxOf a) ∧
    (∀ x, ¬ (s.graph.without s.cyclic).OnCycle x) ∧
    (s.graph.without s.cyclic).topologicalOrder = some s.order := by
  intro s
  have hcyclic : ∀ x, x ∈ s.cyclic ↔ Field.OnCycle fs x := fun _ => mem_cyclic_ofFields
  refine ⟨hcyclic, (ordered_order fs).nodup, ?_, ?_, ?_, ?_, topologicalOrder_left fs⟩
  · intro x hx
    exact mt (hcyclic x).mp (mem_order_ofFields.mp hx).1
  · intro x hbound hx
    exact mem_order_ofFields.mpr ⟨mt (hcyclic x).mpr hx, .inl hbound⟩
  · intro a b hread ha hb
    exact idxOf_order_lt hread ha hb
  · exact Graph.not_onCycle_without prepared_ofFields.plan.mem_cyclic

/-- A name that is not bound is in the order, once, exactly if a name that is on no cycle
reads it, and only then is it among the names that a change of it affects; every name of
the order that reads it stands after it. -/
theorem order_of_not_bound (fs : List Field) (name : String) (h : ¬ Field.Bound fs name) :
    let s := ofFields fs
    (s.order.count name = 1 ↔ ∃ r, Field.Reads fs r name ∧ ¬ Field.OnCycle fs r) ∧
    (name ∈ s.affected name ↔ ∃ r, Field.Reads fs r name ∧ ¬ Field.OnCycle fs r) ∧
    ∀ r ∈ s.order, Field.Reads fs r name → s.order.idxOf name < s.order.idxOf r := by
  intro s
  have hcycle : ¬ Field.OnCycle fs name := mt Field.OnCycle.bound h
  have hmem : name ∈ s.order ↔ ∃ r, Field.Reads fs r name ∧ ¬ Field.OnCycle fs r := by
    rw [mem_order_ofFields, and_iff_right hcycle, or_iff_right h]
  refine ⟨?_, ?_, ?_⟩
  · have hcount : s.order.count name = if name ∈ s.order then 1 else 0 :=
      (ordered_order fs).nodup.count
    rw [hcount, ← hmem]
    simp
  · have hout : name ∉ s.cyclic.toList := fun hc =>
      hcycle (mem_cyclic_ofFields.mp (Std.ExtTreeSet.mem_toList.mp hc))
    rw [← hmem, mem_affected prepared_ofFields, and_iff_left (.inl rfl), List.mem_append]
    exact or_iff_right hout
  · intro r hr hread
    exact idxOf_order_lt hread hr (mem_order_of_reads hread hr hcycle)

/-- `a` is on a cycle, and `b` is what keeps `d` in the order. -/
theorem order_of_not_bound_beside_cycle :
    let fs := [.ofFormula "a" "=a+d", .ofFormula "b" "=d"]
    ¬ Field.Bound fs "d" ∧ (ofFields fs).order.count "d" = 1 ∧
      "d" ∈ (ofFields fs).affected "d" ∧
      (ofFields fs).order.idxOf "d" < (ofFields fs).order.idxOf "b" := by
  intro fs
  have hbound : ¬ Field.Bound fs "d" := by decide +kernel
  have hread : Field.Reads fs "b" "d" := by decide +kernel
  have hcycle : ¬ Field.OnCycle fs "b" := by decide +kernel
  have hreader : "b" ∈ (ofFields fs).order := by decide +kernel
  obtain ⟨hcount, haffected, hbefore⟩ := order_of_not_bound fs "d" hbound
  exact ⟨hbound, hcount.mpr ⟨"b", hread, hcycle⟩, haffected.mpr ⟨"b", hread, hcycle⟩,
    hbefore "b" hreader hread⟩

/-- `a` reads itself and `d`, which no field declares; `d` is not in the order, and a
change of `d` does not count `d` among what it affects. -/
theorem order_without_name_read_on_cycle :
    let fs := [.ofFormula "a" "=a+d"]
    Field.Reads fs "a" "d" ∧ ¬ Field.Bound fs "d" ∧ (ofFields fs).order = [] ∧
      (ofFields fs).affected "d" = ["a"] := by decide +kernel

end Worksheet.Sheet
