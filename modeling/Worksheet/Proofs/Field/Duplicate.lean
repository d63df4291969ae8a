import Worksheet.Proofs.Field.Binding

/- Worksheet Repeated Names — which fields are passed over, and how this is noticed.

   Fields can be bound along one walk over a graph that grows on the way: a field is passed
   over exactly if the graph declares its name already (`Graph.walk`). Names that are only
   read so far stand in the graph by their edges and are not declared, so the walk keeps the
   first field of each name and gives the graph of the template (`Graph.walk_eq`).

   The search for a repeated name keeps a set of its own. It finds none exactly if the walk
   keeps every field that has a name, and otherwise it finds the name of the first field
   that the walk passes over. -/
namespace Worksheet

/-- A walk over fields with names. A field whose name the graph declares is passed over;
every other field is kept and bound. -/
def Graph.walk : Graph → List Binding → Graph × List Binding
  | g, [] => (g, [])
  | g, b :: bs =>
    if g.isDeclared b.name then walk g bs
    else ((walk (g.bind b) bs).1, b :: (walk (g.bind b) bs).2)

/-- Where the graph declares exactly the names that were seen, the walk keeps the first
fields of the other names and binds them in turn. -/
theorem Graph.walk_eq {bs : List Binding} {g : Graph} {seen : NameSet}
    (h : ∀ name, g.isDeclared name = seen.contains name) :
    g.walk bs = ((Field.firsts seen bs).foldl bind g, Field.firsts seen bs) := by
  induction bs generalizing g seen with
  | nil => rfl
  | cons b bs ih =>
    rw [walk, Field.firsts, h b.name]
    split
    · exact ih h
    · have hnext : ∀ name, (g.bind b).isDeclared name = (seen.insert b.name).contains name :=
        fun name => by rw [isDeclared_bind, NameSet.contains_insert, h name]
      rw [ih hnext, List.foldl_cons]

namespace Field

/-- A walk over a template from the empty graph. -/
theorem walk_empty (bs : List Binding) :
    Graph.walk ∅ bs = ((firsts ∅ bs).foldl Graph.bind ∅, firsts ∅ bs) :=
  Graph.walk_eq fun _ => rfl

theorem firsts_sublist (seen : NameSet) (bs : List Binding) : (firsts seen bs).Sublist bs := by
  induction bs generalizing seen with
  | nil => exact .slnil
  | cons b bs ih =>
    rw [firsts]
    split
    · exact (ih seen).cons b
    · exact (ih _).cons_cons b

variable {seen : NameSet} {b : Binding} {bs : List Binding}

/-- A field whose name was seen is passed over. -/
theorem firsts_cons_of_mem (h : seen.contains b.name = true) :
    firsts seen (b :: bs) = firsts seen bs := by
  rw [firsts, if_pos h]

/-- Every other field is kept. -/
theorem firsts_cons_of_not_mem (h : ¬ seen.contains b.name = true) :
    firsts seen (b :: bs) = b :: firsts (seen.insert b.name) bs := by
  rw [firsts, if_neg h]

/-- A walk that passes over its first field does not keep all. -/
theorem firsts_cons_ne (h : seen.contains b.name = true) : firsts seen (b :: bs) ≠ b :: bs := by
  rw [firsts_cons_of_mem h]
  intro heq
  have hle : (firsts seen bs).length ≤ bs.length := (firsts_sublist seen bs).length_le
  rw [heq, List.length_cons] at hle
  omega

/-- No name is repeated exactly if every field is kept. -/
theorem firstRepeated_eq_none_iff :
    firstRepeated seen (bs.map Binding.name) = none ↔ firsts seen bs = bs := by
  induction bs generalizing seen with
  | nil => exact iff_of_true rfl rfl
  | cons b bs ih =>
    rw [List.map_cons, firstRepeated]
    by_cases hseen : seen.contains b.name = true
    · rw [if_pos hseen]
      exact iff_of_false (Option.some_ne_none _) (firsts_cons_ne hseen)
    · rw [if_neg hseen, ih, firsts_cons_of_not_mem hseen, List.cons_inj_right]

/-- A place in a list is its start or a place in the rest of it. -/
theorem exists_split_cons {α : Type} {x : α} {l : List α} {p : List α → α → Prop} :
    (∃ before a after, x :: l = before ++ a :: after ∧ p before a) ↔
      p [] x ∨ ∃ before a after, l = before ++ a :: after ∧ p (x :: before) a := by
  constructor
  · rintro ⟨_ | ⟨y, before⟩, a, after, heq, h⟩
    · obtain ⟨rfl, -⟩ := List.cons.inj heq
      exact .inl h
    · obtain ⟨rfl, hrest⟩ := List.cons.inj heq
      exact .inr ⟨before, a, after, hrest, h⟩
  · rintro (h | ⟨before, a, after, rfl, h⟩)
    · exact ⟨[], x, l, rfl, h⟩
    · exact ⟨x :: before, a, after, rfl, h⟩

/-- A repeated name is that of the first field that is passed over: all fields before it are
kept, and with it no more are. -/
theorem firstRepeated_eq_some_iff {name : String} :
    firstRepeated seen (bs.map Binding.name) = some name ↔
      ∃ before b after, bs = before ++ b :: after ∧ b.name = name ∧
        firsts seen before = before ∧ firsts seen (before ++ [b]) = before := by
  induction bs generalizing seen with
  | nil =>
    refine iff_of_false (fun h => nomatch h) ?_
    rintro ⟨before, b, after, heq, -⟩
    simp at heq
  | cons x bs ih =>
    rw [List.map_cons, firstRepeated, exists_split_cons]
    by_cases hseen : seen.contains x.name = true
    · rw [if_pos hseen, Option.some_inj]
      constructor
      · intro hname
        exact .inl ⟨hname, rfl, firsts_cons_of_mem hseen⟩
      · rintro (⟨hname, -⟩ | ⟨before, b, after, -, -, hkept, -⟩)
        · exact hname
        · exact absurd hkept (firsts_cons_ne hseen)
    · have hfirst : ¬ (x.name = name ∧ firsts seen [] = [] ∧ firsts seen ([] ++ [x]) = []) := by
        rintro ⟨-, -, hdropped⟩
        rw [List.nil_append, firsts_cons_of_not_mem hseen] at hdropped
        exact List.cons_ne_nil _ _ hdropped
      rw [if_neg hseen, ih, or_iff_right hfirst]
      simp only [List.cons_append, firsts_cons_of_not_mem hseen, List.cons_inj_right]

theorem duplicate?_eq (fs : List Field) :
    duplicate? fs = firstRepeated ∅ ((named fs).map Binding.name) := by
  rw [duplicate?, named, List.map_filterMap]
  congr 1
  refine List.filterMap_congr fun f _ => ?_
  cases f.reference <;> rfl

/-- A cell is a formula exactly if its field is a formula whose text can be read. -/
theorem cell_eq_formula_iff {f : Field} {e : Expr} :
    f.cell = .formula e ↔ ∃ text, f.expression? = some text ∧ Formula.parse text = .ok e := by
  rcases f with ⟨info, content⟩ | ⟨info, children⟩
  · cases content with
    | formula text =>
      simp only [cell, expression?, Option.some_inj, exists_eq_left']
      cases Formula.parse text <;> simp
    | _ => simp [cell, expression?]
  · simp [cell, expression?]

/-- For every template: of the fields with names, in their order, exactly the first of each
name is bound. A walk that takes for a repetition what its growing graph declares keeps the
same fields and gives the same graph. The graph declares exactly the bound names, and its
edges lead from a bound formula that can be read to the names that occur in it. No name is
found repeated exactly if no field with a name is passed over; and a name is found repeated
exactly if it is that of the first field that the walk passes over. -/
theorem bindings_agree (fs : List Field) :
    ((bindings fs).Sublist (named fs) ∧ ((bindings fs).map Binding.name).Nodup ∧
      ∀ name f, ⟨name, f⟩ ∈ bindings fs ↔ first? fs name = some f) ∧
    Graph.walk ∅ (named fs) = (Graph.ofFields fs, bindings fs) ∧
    (∀ name, (Graph.ofFields fs).isDeclared name = true ↔ ∃ b ∈ bindings fs, b.name = name) ∧
    (∀ reader name, (Graph.ofFields fs).Reads reader name ↔
      ∃ b ∈ bindings fs, b.name = reader ∧ ∃ text e, b.field.expression? = some text ∧
        Formula.parse text = .ok e ∧ name ∈ e.references) ∧
    (duplicate? fs = none ↔ bindings fs = named fs) ∧
    ∀ name, duplicate? fs = some name ↔
      ∃ before b after, named fs = before ++ b :: after ∧ b.name = name ∧
        (Graph.walk ∅ before).2 = before ∧ (Graph.walk ∅ (before ++ [b])).2 = before := by
  refine ⟨⟨firsts_sublist ∅ (named fs), nodup_bindings fs, fun name f => mem_bindings⟩,
    walk_empty (named fs), fun name => Graph.isDeclared_ofFields, fun reader name => ?_, ?_,
    fun name => ?_⟩
  · rw [Graph.reads_ofFields]
    constructor
    · rintro ⟨b, hb, hreader, e, hcell, hname⟩
      obtain ⟨text, htext, hparse⟩ := cell_eq_formula_iff.mp hcell
      exact ⟨b, hb, hreader, text, e, htext, hparse, hname⟩
    · rintro ⟨b, hb, hreader, text, e, htext, hparse, hname⟩
      exact ⟨b, hb, hreader, e, cell_eq_formula_iff.mpr ⟨text, htext, hparse⟩, hname⟩
  · rw [duplicate?_eq, firstRepeated_eq_none_iff, bindings]
  · simp only [duplicate?_eq, firstRepeated_eq_some_iff, walk_empty]

/-- `b` is read before it is declared; the second `a`, inside a frame, is the repetition. -/
example :
    let fs := [.ofFormula "a" "=b", .ofNumber "b" none,
      .ofFrame "f" [.ofText "a" none, .ofText "c" none], .ofText "b" none]
    (bindings fs).map Binding.name = ["a", "b", "c"] ∧ duplicate? fs = some "a" := by
  decide +kernel

end Field

end Worksheet
