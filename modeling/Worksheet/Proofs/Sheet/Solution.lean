import Worksheet.Proofs.Formula.Locality
import Worksheet.Proofs.Sheet.Sequence
import Worksheet.Sheet.Calculation

/- Worksheet Solutions — a full pass computes the one solution of a template.

   A template and a seed ask for something of the entry at every name
   (`Field.Solution`): of a formula, that it is what the formula denotes in the
   solution itself, although a pass evaluates it in a context that is only partly
   final. All that is asked at a name is one equation (`Sheet.due`). A pass along a
   sequence settles the equation of each name that it visits, because what the name
   reads is not touched any more (`Sheet.get?_run`). Two contexts that settle all
   equations agree at every name, by induction along the same sequence. -/
namespace Worksheet

namespace Field

/-- What a template asks of a context, given the seed. -/
structure Solution (fs : List Field) (functions : Library) (maxDepth : Nat) (seed c : Context) :
    Prop where
  /-- A name that reads itself is an error. -/
  cycle : ∀ b ∈ bindings fs, OnCycle fs b.name → c.get? b.name = some (.error .cycle)
  /-- Every other formula has the entry that it denotes in the context itself. -/
  formula : ∀ b ∈ bindings fs, ¬ OnCycle fs b.name → ∀ e, b.cell = .formula e →
    c.get? b.name = some (e.eval ⟨c, functions, maxDepth⟩)
  /-- A formula that cannot be read is an error. -/
  unparsed : ∀ b ∈ bindings fs, ∀ error, b.cell = .unparsed error →
    c.get? b.name = some (.error .generic)
  /-- A value cell has the entry of the seed, and its default if the seed has none. -/
  value : ∀ b ∈ bindings fs, ∀ default, b.cell = .value default →
    c.get? b.name = some ((seed.get? b.name).getD (.ok default))
  /-- Every other name is as in the seed. -/
  other : ∀ name, ¬ Bound fs name → c.get? name = seed.get? name

end Field

namespace Sheet

/-- The entry that is due at a name where `own` was before, if formulas are
evaluated in the context `c`. -/
def due (s : Sheet) (functions : Library) (own : Option Entry) (c : Context) (name : String) :
    Option Entry :=
  if s.cyclic.contains name then some (.error .cycle)
  else
    match s.cell? name with
    | some (.formula e) => some (e.eval ⟨c, functions, s.maxDepth⟩)
    | some (.unparsed _) => some (.error .generic)
    | some (.value default) => some (own.getD (.ok default))
    | none => own

/-- The context has what is due at every name. -/
def Solves (s : Sheet) (functions : Library) (seed c : Context) : Prop :=
  ∀ name, c.get? name = s.due functions (seed.get? name) c name

variable {s : Sheet} {functions : Library}

/-- What is due at a name depends on what the name reads only, unless the name is on
a cycle. -/
theorem due_congr (h : s.Prepared) {c d : Context} {own : Option Entry} {name : String}
    (hreads : name ∉ s.cyclic → ∀ n, s.graph.Reads name n → c.get? n = d.get? n) :
    s.due functions own c name = s.due functions own d name := by
  rw [due, due]
  split
  · rfl
  · rename_i hcyclic
    have hname : name ∉ s.cyclic := mt Std.ExtTreeSet.contains_iff_mem.mpr hcyclic
    split
    · rename_i e hcell
      rw [Expr.eval_congr fun n hn => hreads hname n ((h.reads_iff name n).mpr ⟨e, hcell, hn⟩)]
    · rfl
    · rfl
    · rfl

/-- What is due at a name that reads another is the same whatever was there before. -/
theorem due_of_reads (h : s.Prepared) {c : Context} {own own' : Option Entry} {name n : String}
    (hread : s.graph.Reads name n) :
    s.due functions own c name = s.due functions own' c name := by
  obtain ⟨e, hcell, -⟩ := (h.reads_iff name n).mp hread
  simp only [due, hcell]

/-- Where nothing is visited, nothing but what was there before is due. -/
theorem due_of_not_visited (h : s.Prepared) {c : Context} {own : Option Entry} {name : String}
    (hname : name ∉ s.cyclic.toList ++ s.order) : s.due functions own c name = own := by
  have hcyclic : ¬ s.cyclic.contains name = true := fun hc =>
    hname (List.mem_append_left _
      (Std.ExtTreeSet.mem_toList.mpr (Std.ExtTreeSet.contains_iff_mem.mp hc)))
  have hcell : s.cell? name = none := by
    by_contra hne
    exact hname (h.plan.covers name ((h.isDeclared_iff name).mpr hne))
  rw [due, if_neg hcyclic, hcell]

/-- What is due where it already is stays due. -/
theorem due_due {c : Context} {own : Option Entry} {name : String} :
    s.due functions (s.due functions own c name) c name = s.due functions own c name := by
  simp only [due]
  split
  · rfl
  · split <;> rfl

/-- Nothing is due only where nothing was before, and then in every context. -/
theorem due_eq_none {c : Context} {own : Option Entry} {name : String}
    (h : s.due functions own c name = none) (d : Context) : s.due functions own d name = none := by
  simp only [due] at h ⊢
  split at h
  · cases h
  · rename_i hcyclic
    rw [if_neg hcyclic]
    split at h
    · cases h
    · cases h
    · cases h
    · exact h

/-! ## Visits -/

/-- A default is put where there is no entry, and only there. -/
theorem get?_default (c : Calculation) (name x : String) (default : Value) :
    (if c.context.contains name then c
      else { c with context := c.context.set name default }).context.get? x =
      if name = x then some ((c.context.get? name).getD (.ok default)) else c.context.get? x := by
  cases hold : c.context.get? name with
  | none =>
    rw [Context.contains, hold, if_neg (by simp)]
    exact Context.get?_insert ..
  | some e =>
    rw [Context.contains, hold, if_pos (by simp)]
    split
    · rename_i hname
      rw [← hname, hold, Option.getD_some]
    · rfl

/-- A visit puts at its name what is due there, and leaves every other entry. -/
theorem get?_visit (c : Calculation) (name x : String) :
    (s.visit functions c name).context.get? x =
      if name = x then s.due functions (c.context.get? name) c.context name
      else c.context.get? x := by
  rw [visit, due]
  split
  · exact Context.get?_insert ..
  · rcases s.cell? name with _ | (e | error | default)
    · show c.context.get? x = if name = x then c.context.get? name else c.context.get? x
      split
      · rename_i hname
        rw [hname]
      · rfl
    · exact Context.get?_insert ..
    · exact Context.get?_insert ..
    · exact get?_default ..

/-- The context after some visits: each visited name has what is due in that very
context, and every other name is as before. -/
theorem get?_run (h : s.Prepared) (functions : Library) {names : List String}
    (hseq : s.graph.Sequenced s.cyclic names) (c : Calculation) (x : String) :
    (names.foldl (s.visit functions) c).context.get? x =
      if x ∈ names then
        s.due functions (c.context.get? x) (names.foldl (s.visit functions) c).context x
      else c.context.get? x := by
  induction hseq generalizing c x with
  | nil => rfl
  | @cons name names fresh reads rest ih =>
    rw [List.foldl_cons]
    by_cases hname : name = x
    · subst hname
      -- the names that are visited later leave what this one reads
      have hrest : ∀ n, n ∉ name :: names →
          c.context.get? n =
            (names.foldl (s.visit functions) (s.visit functions c name)).context.get? n := by
        intro n hn
        obtain ⟨hne, hn⟩ := not_or.mp (mt List.mem_cons.mpr hn)
        rw [ih, if_neg hn, get?_visit, if_neg (Ne.symm hne)]
      rw [if_pos List.mem_cons_self, ih, if_neg fresh, get?_visit, if_pos rfl]
      exact due_congr h fun hcyclic n hread => hrest n (reads hcyclic n hread)
    · rw [ih, get?_visit, if_neg hname]
      have hmem : x ∈ name :: names ↔ x ∈ names :=
        List.mem_cons.trans (or_iff_right (Ne.symm hname))
      simp only [hmem]

/-! ## Solutions -/

/-- A full pass has what is due at every name. -/
theorem solves_evaluateWith (h : s.Prepared) (functions : Library) (seed : Context) :
    s.Solves functions seed (s.evaluateWith functions seed).context := by
  intro name
  have hget := get?_run h functions h.plan.sequenced ⟨seed, s.baseStats⟩ name
  by_cases hname : name ∈ s.cyclic.toList ++ s.order
  · rwa [if_pos hname] at hget
  · rw [if_neg hname] at hget
    rw [due_of_not_visited h hname]
    exact hget

/-- Where two contexts settle the equations of some names, and agree on all else that these
names read, they agree on the names: a name that is not visited has what was there before,
and each visited one agrees because what it reads does. -/
theorem agree_of_due (h : s.Prepared) (among : String → Prop) (own : String → Option Entry)
    {c d : Context}
    (hreads : ∀ x, among x → ∀ n, s.graph.Reads x n → among n ∨ c.get? n = d.get? n)
    (hc : ∀ x, among x → c.get? x = s.due functions (own x) c x)
    (hd : ∀ x, among x → d.get? x = s.due functions (own x) d x) :
    ∀ x, among x → c.get? x = d.get? x := by
  have along : ∀ names, s.graph.Sequenced s.cyclic names →
      (∀ x, among x → x ∉ names → c.get? x = d.get? x) → ∀ x, among x → c.get? x = d.get? x := by
    intro names hseq
    -- where the contexts agree on all names but those to come, the first of these reads
    -- nothing on which they may differ
    induction hseq with
    | nil => exact fun hout x hx => hout x hx List.not_mem_nil
    | @cons name names fresh reads rest ih =>
      intro hout
      refine ih fun x hx hrest => ?_
      by_cases hname : x = name
      · subst hname
        rw [hc x hx, hd x hx]
        refine due_congr h fun hcyclic n hread => ?_
        rcases hreads x hx n hread with hn | hn
        · exact hout n hn (reads hcyclic n hread)
        · exact hn
      · exact hout x hx (mt List.mem_cons.mp (not_or.mpr ⟨hname, hrest⟩))
  refine along _ h.plan.sequenced fun x hx hout => ?_
  rw [hc x hx, hd x hx, due_of_not_visited h hout, due_of_not_visited h hout]

/-- There is one solution. -/
theorem Solves.unique (h : s.Prepared) {seed c d : Context} (hc : s.Solves functions seed c)
    (hd : s.Solves functions seed d) : c = d := by
  apply Context.ext
  intro x
  exact agree_of_due h (fun _ => True) seed.get? (fun _ _ _ _ => .inl trivial) (fun x _ => hc x)
    (fun x _ => hd x) x trivial

/-- A full pass from a seed is what solves for it. -/
theorem Solves.eq_evaluateWith (h : s.Prepared) {seed c : Context}
    (hc : s.Solves functions seed c) : c = (s.evaluateWith functions seed).context :=
  hc.unique h (solves_evaluateWith h functions seed)

/-- A solution for a seed is a solution for itself. -/
theorem Solves.self {seed c : Context} (hc : s.Solves functions seed c) :
    s.Solves functions c c := by
  intro name
  rw [hc name, due_due]

/-! ## Solutions of a template -/

section

variable {fs : List Field} {maxDepth : Nat} {own : Option Entry} {seed c : Context}

theorem prepared_withMaxDepth (fs : List Field) (maxDepth : Nat) :
    ((ofFields fs).withMaxDepth maxDepth).Prepared := prepared_ofFields.withMaxDepth maxDepth

theorem contains_cyclic_ofFields {name : String} :
    ((ofFields fs).withMaxDepth maxDepth).cyclic.contains name = true ↔ Field.OnCycle fs name := by
  rw [Std.ExtTreeSet.contains_iff_mem]
  exact mem_cyclic_ofFields

theorem due_of_onCycle {name : String} (h : Field.OnCycle fs name) :
    ((ofFields fs).withMaxDepth maxDepth).due functions own c name = some (.error .cycle) := by
  rw [due, if_pos (contains_cyclic_ofFields.mpr h)]

theorem due_of_not_bound {name : String} (h : ¬ Field.Bound fs name) :
    ((ofFields fs).withMaxDepth maxDepth).due functions own c name = own := by
  have hcycle : ¬ Field.OnCycle fs name := mt Field.OnCycle.bound h
  have hcell : ((ofFields fs).withMaxDepth maxDepth).cell? name = none :=
    cell?_ofFields_eq_none.mpr h
  rw [due, if_neg (mt contains_cyclic_ofFields.mp hcycle), hcell]

theorem due_of_bound {b : Binding} (hb : b ∈ Field.bindings fs)
    (hcycle : ¬ Field.OnCycle fs b.name) :
    ((ofFields fs).withMaxDepth maxDepth).due functions own c b.name =
      match b.cell with
      | .formula e => some (e.eval ⟨c, functions, maxDepth⟩)
      | .unparsed _ => some (.error .generic)
      | .value default => some (own.getD (.ok default)) := by
  have hcell : ((ofFields fs).withMaxDepth maxDepth).cell? b.name = some b.cell :=
    cell?_ofFields.mpr ⟨b, hb, rfl, rfl⟩
  rw [due, if_neg (mt contains_cyclic_ofFields.mp hcycle), hcell]
  cases b.cell <;> rfl

/-- Only a formula that can be read is on a cycle. -/
theorem not_onCycle_of_cell {b : Binding} (hb : b ∈ Field.bindings fs)
    (hcell : ∀ e, b.cell ≠ .formula e) : ¬ Field.OnCycle fs b.name := by
  intro hcycle
  obtain ⟨n, ⟨b', hb', hname, e, he, -⟩, -⟩ := Relation.TransGen.head'_iff.mp hcycle
  rw [Field.binding_unique hb' hb hname] at he
  exact hcell e he

/-- The equations of a sheet ask for what its template asks for. -/
theorem solves_iff_solution :
    ((ofFields fs).withMaxDepth maxDepth).Solves functions seed c ↔
      Field.Solution fs functions maxDepth seed c := by
  constructor
  · intro h
    refine ⟨?_, ?_, ?_, ?_, ?_⟩
    · intro b hb hcycle
      rw [h b.name, due_of_onCycle hcycle]
    · intro b hb hcycle e hcell
      rw [h b.name, due_of_bound hb hcycle, hcell]
    · intro b hb error hcell
      rw [h b.name, due_of_bound hb (not_onCycle_of_cell hb (by simp [hcell])), hcell]
    · intro b hb default hcell
      rw [h b.name, due_of_bound hb (not_onCycle_of_cell hb (by simp [hcell])), hcell]
    · intro name hname
      rw [h name, due_of_not_bound hname]
  · intro h name
    by_cases hname : Field.Bound fs name
    · obtain ⟨b, hb, rfl⟩ := hname
      by_cases hcycle : Field.OnCycle fs b.name
      · rw [h.cycle b hb hcycle, due_of_onCycle hcycle]
      · rw [due_of_bound hb hcycle]
        cases hcell : b.cell with
        | formula e => exact h.formula b hb hcycle e hcell
        | unparsed error => exact h.unparsed b hb error hcell
        | value default => exact h.value b hb default hcell
    · rw [h.other name hname, due_of_not_bound hname]

/-- A full pass computes the only solution of the template, and a pass from there
changes nothing. -/
theorem evaluateWith_solution (fs : List Field) (maxDepth : Nat) (functions : Library)
    (seed : Context) :
    let c := (((ofFields fs).withMaxDepth maxDepth).evaluateWith functions seed).context
    Field.Solution fs functions maxDepth seed c ∧
    (∀ d, Field.Solution fs functions maxDepth seed d → d = c) ∧
    (((ofFields fs).withMaxDepth maxDepth).evaluateWith functions c).context = c := by
  intro c
  have h := prepared_withMaxDepth fs maxDepth
  have hc := solves_evaluateWith h functions seed
  refine ⟨solves_iff_solution.mp hc, ?_, ?_⟩
  · intro d hd
    exact (solves_iff_solution.mpr hd).eq_evaluateWith h
  · exact (hc.self.eq_evaluateWith h).symm

end

end Sheet

end Worksheet
