import Mathlib.Data.List.Nodup
import Worksheet.Field.Binding
import Worksheet.Proofs.Graph.Edges

/- Worksheet Binding Theory — the dependencies of a template are those of its bindings.

   Bindings have distinct names, so the binding of a name is a function of the
   name: it is the first field that has it (`Field.mem_bindings`). The graph of a
   template declares exactly the bound names and has an edge exactly where a bound
   formula that can be read reads a name; so whatever reads a name is declared. -/
namespace Worksheet

namespace Field

/-- The first field with a name, counting a frame before what is inside it. -/
def first? (fs : List Field) (name : String) : Option Field :=
  (flattenAll fs).find? fun f => f.reference == some name

/-- A binding that is kept is the first of its name, and its name was not seen before. -/
theorem mem_firsts {bs : List Binding} {seen : NameSet} {b : Binding} :
    b ∈ firsts seen bs ↔ b.name ∉ seen ∧ bs.find? (·.name == b.name) = some b := by
  induction bs generalizing seen with
  | nil => simp [firsts]
  | cons x bs ih =>
    rw [firsts]
    by_cases hseen : seen.contains x.name = true
    · rw [if_pos hseen, ih]
      refine and_congr_right fun hb => ?_
      have hname : x.name ≠ b.name := fun h =>
        hb (h ▸ Std.ExtTreeSet.contains_iff_mem.mp hseen)
      rw [List.find?_cons_of_neg (by simpa using hname)]
    · rw [if_neg hseen, List.mem_cons, ih, NameSet.mem_insert]
      by_cases hname : x.name = b.name
      · have hfresh : b.name ∉ seen := hname ▸ mt Std.ExtTreeSet.contains_iff_mem.mpr hseen
        rw [List.find?_cons_of_pos (by simpa using hname), Option.some_inj]
        constructor
        · rintro (rfl | h)
          · exact ⟨hfresh, rfl⟩
          · exact absurd (.inl hname) h.1
        · rintro ⟨-, rfl⟩
          exact .inl rfl
      · have hne : b ≠ x := fun h => hname (congrArg Binding.name h.symm)
        rw [List.find?_cons_of_neg (by simpa using hname), or_iff_right hne, not_or,
          and_iff_right hname]

theorem nodup_firsts (bs : List Binding) (seen : NameSet) :
    ((firsts seen bs).map Binding.name).Nodup := by
  induction bs generalizing seen with
  | nil => exact .nil
  | cons b bs ih =>
    rw [firsts]
    split
    · exact ih seen
    · refine List.nodup_cons.mpr ⟨?_, ih _⟩
      intro hb
      obtain ⟨x, hx, hname⟩ := List.mem_map.mp hb
      exact (mem_firsts.mp hx).1 (NameSet.mem_insert.mpr (.inl hname.symm))

theorem find?_named (fs : List Field) (name : String) :
    (named fs).find? (·.name == name) = (first? fs name).map (Binding.mk name) := by
  rw [named, first?]
  induction flattenAll fs with
  | nil => rfl
  | cons f l ih =>
    cases href : f.reference with
    | none =>
      rw [List.filterMap_cons_none (by rw [href]; rfl), ih, List.find?_cons_of_neg (by simp [href])]
    | some other =>
      rw [List.filterMap_cons_some (b := ⟨other, f⟩) (by rw [href]; rfl)]
      by_cases hname : other = name
      · subst hname
        rw [List.find?_cons_of_pos (by simp), List.find?_cons_of_pos (by simp [href])]
        rfl
      · rw [List.find?_cons_of_neg (by simpa using hname),
          List.find?_cons_of_neg (by simpa [href] using hname), ih]

/-- A name is bound to the first field that has it. -/
theorem mem_bindings {fs : List Field} {name : String} {f : Field} :
    ⟨name, f⟩ ∈ bindings fs ↔ first? fs name = some f := by
  rw [bindings, mem_firsts, and_iff_right Std.ExtTreeSet.not_mem_empty, find?_named,
    Option.map_eq_some_iff]
  simp

theorem field_mem_flattenAll {fs : List Field} {b : Binding} (hb : b ∈ bindings fs) :
    b.field ∈ flattenAll fs :=
  List.mem_of_find?_eq_some (mem_bindings.mp hb)

/-- A cell that is no formula holds the default of its field. -/
theorem cell_eq_value {f : Field} {v : Value} (h : f.cell = .value v) :
    v = f.default?.getD .null := by
  unfold cell at h
  split at h
  · split at h <;> exact nomatch h
  · exact (Cell.value.inj h).symm

theorem nodup_bindings (fs : List Field) : ((bindings fs).map Binding.name).Nodup :=
  nodup_firsts (named fs) ∅

/-- A name is bound to one field. -/
theorem binding_unique {fs : List Field} {a b : Binding} (ha : a ∈ bindings fs)
    (hb : b ∈ bindings fs) (h : a.name = b.name) : a = b :=
  List.inj_on_of_nodup_map (nodup_bindings fs) ha hb h

/-- A name is bound. -/
def Bound (fs : List Field) (name : String) : Prop := ∃ b ∈ bindings fs, b.name = name

/-- The bound names are the names of the fields, on whatever level they are. -/
theorem bound_iff {fs : List Field} {name : String} :
    Bound fs name ↔ ∃ f ∈ flattenAll fs, f.reference = some name := by
  constructor
  · rintro ⟨⟨name, f⟩, hb, rfl⟩
    have hfirst := mem_bindings.mp hb
    exact ⟨f, List.mem_of_find?_eq_some hfirst, by simpa using List.find?_some hfirst⟩
  · rintro ⟨f, hf, hname⟩
    have hsome : (first? fs name).isSome = true := by
      rw [first?, List.find?_isSome]
      exact ⟨f, hf, by simpa using hname⟩
    obtain ⟨g, hg⟩ := Option.isSome_iff_exists.mp hsome
    exact ⟨⟨name, g⟩, mem_bindings.mpr hg, rfl⟩

/-- `reader` is bound to a formula that can be read and in which `name` occurs. -/
def Reads (fs : List Field) (reader name : String) : Prop :=
  ∃ b ∈ bindings fs, b.name = reader ∧ ∃ e, b.cell = .formula e ∧ name ∈ e.references

/-- A name leads to another through any number of steps, possibly none. -/
abbrev Leads (fs : List Field) : String → String → Prop := Relation.ReflTransGen (Reads fs)

/-- A name reads itself through one step or more. -/
def OnCycle (fs : List Field) (name : String) : Prop := Relation.TransGen (Reads fs) name name

/-- A name that is not bound reads nothing, so a name on a cycle is bound. -/
theorem OnCycle.bound {fs : List Field} {name : String} (h : OnCycle fs name) : Bound fs name := by
  obtain ⟨n, ⟨b, hb, hname, -⟩, -⟩ := Relation.TransGen.head'_iff.mp h
  exact ⟨b, hb, hname⟩

end Field

namespace Graph

theorem wellFormed_bind {g : Graph} (h : g.WellFormed) (b : Binding) : (g.bind b).WellFormed := by
  rw [bind]
  split
  · exact h.addFormula b.name _
  · exact h.declare b.name

theorem isDeclared_bind {g : Graph} {b : Binding} {name : String} :
    (g.bind b).isDeclared name = (b.name == name || g.isDeclared name) := by
  rw [bind]
  split
  · exact isDeclared_addFormula
  · exact isDeclared_declare ..

theorem reads_bind {g : Graph} {b : Binding} {reader name : String} :
    (g.bind b).Reads reader name ↔
      (b.name = reader ∧ ∃ e, b.cell = .formula e ∧ name ∈ e.references) ∨ g.Reads reader name := by
  rw [bind]
  split
  · rename_i e hcell
    rw [reads_addFormula, hcell]
    simp [eq_comm]
  · rename_i hcell
    rw [reads_declare]
    refine (or_iff_right ?_).symm
    rintro ⟨-, e, he, -⟩
    exact hcell e he

/-- The names and the edges that a list of bindings adds to a graph. -/
theorem bindAll_spec {g : Graph} (h : g.WellFormed) (bs : List Binding) :
    (bs.foldl bind g).WellFormed ∧
    (∀ name, (bs.foldl bind g).isDeclared name = true ↔
      (∃ b ∈ bs, b.name = name) ∨ g.isDeclared name = true) ∧
    ∀ reader name, (bs.foldl bind g).Reads reader name ↔
      (∃ b ∈ bs, b.name = reader ∧ ∃ e, b.cell = .formula e ∧ name ∈ e.references) ∨
        g.Reads reader name := by
  induction bs generalizing g with
  | nil => simp [h]
  | cons b bs ih =>
    obtain ⟨hw, hdeclared, hreads⟩ := ih (wellFormed_bind h b)
    refine ⟨hw, fun name => ?_, fun reader name => ?_⟩
    · rw [List.foldl_cons, hdeclared, isDeclared_bind, Bool.or_eq_true, beq_iff_eq]
      simp only [List.mem_cons, exists_eq_or_imp]
      exact or_left_comm.trans or_assoc.symm
    · rw [List.foldl_cons, hreads, reads_bind]
      simp only [List.mem_cons, exists_eq_or_imp]
      exact or_left_comm.trans or_assoc.symm

variable {fs : List Field}

theorem wellFormed_ofFields : (ofFields fs).WellFormed := (bindAll_spec .empty _).1

theorem isDeclared_ofFields {name : String} :
    (ofFields fs).isDeclared name = true ↔ Field.Bound fs name := by
  rw [ofFields, (bindAll_spec .empty _).2.1, isDeclared_empty]
  simp [Field.Bound]

theorem reads_ofFields {reader name : String} :
    (ofFields fs).Reads reader name ↔ Field.Reads fs reader name := by
  rw [ofFields, (bindAll_spec .empty _).2.2]
  simp [Field.Reads]

theorem reads_ofFields_eq : (ofFields fs).Reads = Field.Reads fs :=
  funext fun _ => funext fun _ => propext reads_ofFields

/-- Being bound is decided by making the graph. -/
instance {name : String} : Decidable (Field.Bound fs name) :=
  decidable_of_iff _ isDeclared_ofFields

instance {reader name : String} : Decidable (Field.Reads fs reader name) :=
  decidable_of_iff _ (mem_edges.trans reads_ofFields)

/-- What reads a name is declared. -/
theorem isDeclared_of_reads {reader name : String} (h : (ofFields fs).Reads reader name) :
    (ofFields fs).isDeclared reader = true := by
  obtain ⟨b, hb, hname, -⟩ := reads_ofFields.mp h
  exact isDeclared_ofFields.mpr ⟨b, hb, hname⟩

theorem onCycle_ofFields {name : String} : (ofFields fs).OnCycle name ↔ Field.OnCycle fs name := by
  rw [OnCycle, Field.OnCycle, Depends, reads_ofFields_eq]

end Graph

end Worksheet
