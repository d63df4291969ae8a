import Worksheet.Proofs.Sheet.Incremental

/- Worksheet Affected Names — what an incremental pass touches, on any context.

   An incremental pass visits the names that depend on the changed one, and the changed
   one itself if the sheet visits it at all (`Sheet.mem_affected_ofFields`). The context
   that it starts from need not be what another pass has left: the entries of other names
   may be stale, wrong or missing. The pass leaves them as they are, and what it leaves at
   the affected names is what the template asks there of the context it gives
   (`Field.Refreshed`). A formula that is evaluated early keeps its entry, and so does all
   that it has read, because the names are visited in sequence. -/
namespace Worksheet

namespace Field

/-- What is asked of the context `c` after a pass over some names that started from the
context `old`. -/
structure Refreshed (fs : List Field) (functions : Library) (maxDepth : Nat)
    (names : List String) (old c : Context) : Prop where
  /-- Every other name has the entry that it had, or none if it had none. -/
  frame : ∀ x, x ∉ names → c.get? x = old.get? x
  /-- A name that reads itself is an error. -/
  cycle : ∀ x ∈ names, OnCycle fs x → c.get? x = some (.error .cycle)
  /-- A formula that cannot be read is an error. -/
  unparsed : ∀ b ∈ bindings fs, b.name ∈ names → ∀ error, b.cell = .unparsed error →
    c.get? b.name = some (.error .generic)
  /-- Every other formula has the entry that it denotes in the context itself. -/
  formula : ∀ b ∈ bindings fs, b.name ∈ names → ¬ OnCycle fs b.name → ∀ e, b.cell = .formula e →
    c.get? b.name = some (e.eval ⟨c, functions, maxDepth⟩)
  /-- A value cell has the entry that it had, and its default if it had none. -/
  value : ∀ b ∈ bindings fs, b.name ∈ names → ∀ default, b.cell = .value default →
    c.get? b.name = some ((old.get? b.name).getD (.ok default))
  /-- A name that no field declares is as it was. -/
  dangling : ∀ x ∈ names, ¬ Bound fs x → c.get? x = old.get? x

end Field

namespace Sheet

variable {fs : List Field} {maxDepth : Nat} {functions : Library}

/-- The names that a change affects: those that depend on the changed one, and the changed
one if it is on a cycle or in the order. -/
theorem mem_affected_ofFields {changed x : String} :
    x ∈ ((ofFields fs).withMaxDepth maxDepth).affected changed ↔
      Relation.TransGen (Field.Reads fs) x changed ∨
        x = changed ∧ (changed ∈ (ofFields fs).cyclic ∨ changed ∈ (ofFields fs).order) := by
  have h : (ofFields fs).Prepared := prepared_ofFields
  have haffected : ((ofFields fs).withMaxDepth maxDepth).affected changed =
      (ofFields fs).affected changed := rfl
  rw [haffected, mem_affected h, List.mem_append, Std.ExtTreeSet.mem_toList, Graph.Depends, reads_graph]
  constructor
  · rintro ⟨hvisited, rfl | hdepends⟩
    · exact .inr ⟨rfl, hvisited⟩
    · exact .inl hdepends
  · rintro (hdepends | ⟨rfl, hvisited⟩)
    · -- what depends on a name reads one, so a field declares it and it is visited
      obtain ⟨n, hread, -⟩ := Relation.TransGen.head'_iff.mp hdepends
      obtain ⟨b, hb, hname, -⟩ := hread
      have hdeclared : (ofFields fs).graph.isDeclared x = true :=
        isDeclared_graph.mpr ⟨b, hb, hname⟩
      have hcovered := h.plan.covers x hdeclared
      rw [List.mem_append, Std.ExtTreeSet.mem_toList] at hcovered
      exact ⟨hcovered, .inr hdepends⟩
    · exact ⟨hvisited, .inl rfl⟩

/-- Names that are settled have what the template asks of them. -/
theorem Settled.refreshed {names : List String} {old c : Context}
    (h : ((ofFields fs).withMaxDepth maxDepth).Settled functions old (· ∈ names) c) :
    Field.Refreshed fs functions maxDepth names old c where
  frame x hx := (h x).2 hx
  cycle x hx hcycle := by rw [(h x).1 hx, due_of_onCycle hcycle]
  unparsed b hb hname error hcell := by
    rw [(h b.name).1 hname, due_of_bound hb (not_onCycle_of_cell hb (by simp [hcell])), hcell]
  formula b hb hname hcycle e hcell := by
    rw [(h b.name).1 hname, due_of_bound hb hcycle, hcell]
  value b hb hname default hcell := by
    rw [(h b.name).1 hname, due_of_bound hb (not_onCycle_of_cell hb (by simp [hcell])), hcell]
  dangling x hx hbound := by rw [(h x).1 hx, due_of_not_bound hbound]

/-- For every template, nesting limit, library, changed name and context: the affected names
are those that depend on the changed one, and the changed one if it is on a cycle or in the
order, each once; a name on no cycle stands after all affected names that it reads; and an
incremental pass leaves the affected names as the template asks, and all others as they
were. -/
theorem recalculateWith_refreshed (fs : List Field) (maxDepth : Nat) (functions : Library)
    (changed : String) (c : Context) :
    let s := (ofFields fs).withMaxDepth maxDepth
    let names := s.affected changed
    names.Nodup ∧
    (∀ x, x ∈ names ↔ Relation.TransGen (Field.Reads fs) x changed ∨
      x = changed ∧ (changed ∈ s.cyclic ∨ changed ∈ s.order)) ∧
    (∀ a ∈ names, ¬ Field.OnCycle fs a → ∀ n ∈ names, Field.Reads fs a n →
      names.idxOf n < names.idxOf a) ∧
    Field.Refreshed fs functions maxDepth names c
      (s.recalculateWith functions changed c).context := by
  intro s names
  have h : s.Prepared := prepared_withMaxDepth fs maxDepth
  have hseq : s.graph.Sequenced s.cyclic names := sequenced_affected h changed
  refine ⟨hseq.nodup, fun x => mem_affected_ofFields, fun a ha hcycle n hn hread => ?_,
    (settled_recalculateWith h functions changed c).refreshed⟩
  have hcyclic : a ∉ s.cyclic := mt mem_cyclic_ofFields.mp hcycle
  have hedge : (ofFields fs).graph.Reads a n := reads_graph ▸ hread
  exact hseq.idxOf_lt ha hn hcyclic hedge

/-- A change of `a` reaches `x`, which is on a cycle, and `b` before `c`, which reads it. -/
example : (ofFields [.ofFormula "c" "=b", .ofFormula "b" "=a+d", .ofFormula "x" "=x+b",
    .ofNumber "a" none]).affected "a" = ["x", "a", "b", "c"] := by decide +kernel

end Sheet

end Worksheet
