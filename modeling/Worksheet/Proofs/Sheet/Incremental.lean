import Worksheet.Proofs.Graph.Reach
import Worksheet.Proofs.Sheet.Solution

/- Worksheet Incremental Passes — edits one by one give what one full pass gives.

   An edit puts an entry at a name or removes the one that is there; the seed and
   the context are edited alike, and an incremental pass follows. A name that the
   pass does not visit reads neither the edited name nor a visited one, so its
   equation still holds if it held before; a visited name has its own equation settled
   by the pass (`Sheet.Settled.edit`). So a history of edits takes a solution to a
   solution for the edited seed (`Sheet.Solves.edits`), and there is only one
   solution. -/
namespace Worksheet

/-- A change of a context at one name. -/
inductive Edit where
  | put (name : String) (e : Entry)
  | remove (name : String)

namespace Edit

/-- The name that is edited. -/
def name : Edit → String
  | put name _ => name
  | remove name => name

/-- The edited context. -/
def apply (c : Context) : Edit → Context
  | put name e => c.insert name e
  | remove name => c.erase name

/-- What is at the edited name does not depend on the context. -/
theorem get?_apply_self (edit : Edit) (c d : Context) :
    (edit.apply c).get? edit.name = (edit.apply d).get? edit.name := by
  cases edit with
  | put name e =>
    calc (c.insert name e).get? name = some e := by rw [Context.get?_insert, if_pos rfl]
      _ = (d.insert name e).get? name := by rw [Context.get?_insert, if_pos rfl]
  | remove name =>
    calc (c.erase name).get? name = none := by rw [Context.get?_erase, if_pos rfl]
      _ = (d.erase name).get? name := by rw [Context.get?_erase, if_pos rfl]

/-- Every other name is as before. -/
theorem get?_apply_of_ne {edit : Edit} {x : String} (c : Context) (h : edit.name ≠ x) :
    (edit.apply c).get? x = c.get? x := by
  cases edit with
  | put name e => exact (Context.get?_insert ..).trans (if_neg h)
  | remove name => exact (Context.get?_erase ..).trans (if_neg h)

/-- So is every name that none of some edits is at. -/
theorem get?_foldl_apply_of_ne {edits : List Edit} {x : String}
    (h : ∀ edit ∈ edits, edit.name ≠ x) (c : Context) :
    (edits.foldl apply c).get? x = c.get? x := by
  induction edits generalizing c with
  | nil => rfl
  | cons edit edits ih =>
    obtain ⟨hedit, hedits⟩ := List.forall_mem_cons.mp h
    rw [List.foldl_cons, ih hedits, get?_apply_of_ne c hedit]

end Edit

namespace Sheet

/-- Edits a context and makes an incremental pass at the edited name. -/
def afterEdit (s : Sheet) (functions : Library) (c : Context) (edit : Edit) : Context :=
  (s.recalculateWith functions edit.name (edit.apply c)).context

variable {s : Sheet} {functions : Library}

/-- An incremental pass visits the changed name and what depends on it. -/
theorem mem_affected (h : s.Prepared) {changed x : String} :
    x ∈ s.affected changed ↔
      x ∈ s.cyclic.toList ++ s.order ∧ (x = changed ∨ s.graph.Depends x changed) := by
  rw [affected, List.mem_filter, Bool.or_eq_true, beq_iff_eq, Std.ExtTreeSet.contains_iff_mem,
    h.wellFormed.mem_transitiveDependents]

theorem sequenced_affected (h : s.Prepared) (changed : String) :
    s.graph.Sequenced s.cyclic (s.affected changed) :=
  h.plan.sequenced.sublist List.filter_sublist

/-- What a name reads that is neither changed nor depends on the change is neither
changed nor visited. -/
theorem reads_of_not_affected (h : s.Prepared) {changed x n : String} (hread : s.graph.Reads x n)
    (hx : x ∉ s.affected changed) : n ≠ changed ∧ n ∉ s.affected changed := by
  have hvisited : x ∈ s.cyclic.toList ++ s.order := by
    obtain ⟨e, hcell, -⟩ := (h.reads_iff x n).mp hread
    exact h.plan.covers x ((h.isDeclared_iff x).mpr (by simp [hcell]))
  have hdepends : ¬ s.graph.Depends x changed := fun hd =>
    hx ((mem_affected h).mpr ⟨hvisited, .inr hd⟩)
  constructor
  · rintro rfl
    exact hdepends (.single hread)
  · intro hn
    rcases ((mem_affected h).mp hn).2 with rfl | hd
    · exact hdepends (.single hread)
    · exact hdepends (.head hread hd)

/-- Some names of the context have what is due at them, where `own` was before, and every
other name has what was there before. -/
def Settled (s : Sheet) (functions : Library) (own : Context) (among : String → Prop)
    (c : Context) : Prop :=
  ∀ x, (among x → c.get? x = s.due functions (own.get? x) c x) ∧
    (¬ among x → c.get? x = own.get? x)

/-- An incremental pass settles the affected names of any context. -/
theorem settled_recalculateWith (h : s.Prepared) (functions : Library) (changed : String)
    (c : Context) :
    s.Settled functions c (· ∈ s.affected changed)
      (s.recalculateWith functions changed c).context := by
  intro x
  have hget := get?_run h functions (sequenced_affected h changed) ⟨c, s.baseStats⟩ x
  constructor
  · intro hx
    rwa [if_pos hx] at hget
  · intro hx
    rwa [if_neg hx] at hget

/-- An edit and an incremental pass settle the affected names, and what was settled stays
settled. -/
theorem Settled.edit (h : s.Prepared) {own c : Context} {among : String → Prop}
    (hc : s.Settled functions own among c) (edit : Edit) :
    s.Settled functions (edit.apply own) (fun x => among x ∨ x ∈ s.affected edit.name)
      (s.afterEdit functions c edit) := by
  have hpass := settled_recalculateWith h functions edit.name (edit.apply c)
  intro x
  rw [afterEdit]
  by_cases hx : x ∈ s.affected edit.name
  · refine ⟨fun _ => ?_, fun hout => absurd (.inr hx) hout⟩
    rw [(hpass x).1 hx]
    rcases ((mem_affected h).mp hx).2 with rfl | hd
    · rw [edit.get?_apply_self c own]
    · obtain ⟨n, hread, -⟩ := Relation.TransGen.head'_iff.mp hd
      exact due_of_reads h hread
  · rw [(hpass x).2 hx]
    by_cases hname : edit.name = x
    · have hvisited : x ∉ s.cyclic.toList ++ s.order := fun hv =>
        hx ((mem_affected h).mpr ⟨hv, .inl hname.symm⟩)
      rw [due_of_not_visited h hvisited, ← hname, edit.get?_apply_self c own]
      exact ⟨fun _ => rfl, fun _ => rfl⟩
    · rw [Edit.get?_apply_of_ne c hname, Edit.get?_apply_of_ne own hname]
      refine ⟨fun hamong => ?_, fun hout => (hc x).2 fun hx => hout (.inl hx)⟩
      -- the equation of `x` held before, and nothing that it reads has changed
      rw [(hc x).1 (hamong.resolve_right hx)]
      refine due_congr h fun _ n hread => ?_
      obtain ⟨hne, hn⟩ := reads_of_not_affected h hread hx
      rw [(hpass n).2 hn, Edit.get?_apply_of_ne c hne.symm]

/-- A history of edits settles the names that one of them affects. -/
theorem Settled.edits (h : s.Prepared) {own c : Context} {among : String → Prop}
    (hc : s.Settled functions own among c) (edits : List Edit) :
    s.Settled functions (edits.foldl Edit.apply own)
      (fun x => among x ∨ ∃ edit ∈ edits, x ∈ s.affected edit.name)
      (edits.foldl (s.afterEdit functions) c) := by
  induction edits generalizing own among c with
  | nil => simpa using hc
  | cons edit edits ih =>
    have hrest := ih (hc.edit h edit)
    simp only [or_assoc] at hrest
    simpa using hrest

/-- A history of edits keeps the context a solution for the edited seed. -/
theorem Solves.edits (h : s.Prepared) {seed c : Context} (hc : s.Solves functions seed c)
    (edits : List Edit) :
    s.Solves functions (edits.foldl Edit.apply seed) (edits.foldl (s.afterEdit functions) c) := by
  have hsettled : s.Settled functions seed (fun _ => True) c := fun x =>
    ⟨fun _ => hc x, fun hout => absurd trivial hout⟩
  intro x
  exact (hsettled.edits h edits x).1 (.inl trivial)

/-- Edits one by one, each followed by an incremental pass, give the context of one
full pass over the edited seed. -/
theorem edits_eq_evaluateWith (h : s.Prepared) (functions : Library) (seed : Context)
    (edits : List Edit) :
    edits.foldl (s.afterEdit functions) (s.evaluateWith functions seed).context =
      (s.evaluateWith functions (edits.foldl Edit.apply seed)).context :=
  ((solves_evaluateWith h functions seed).edits h edits).eq_evaluateWith h

/-- Incremental passes over a history of edits give what one full pass gives, for every
template, nesting limit, library and seed; with the built-in functions, so do updates
by values. -/
theorem incremental_eq_full (fs : List Field) (maxDepth : Nat) (seed : Context) :
    let s := (ofFields fs).withMaxDepth maxDepth
    (∀ (functions : Library) (edits : List Edit),
      edits.foldl (fun c edit => (s.recalculateWith functions edit.name (edit.apply c)).context)
          (s.evaluateWith functions seed).context =
        (s.evaluateWith functions (edits.foldl Edit.apply seed)).context) ∧
    ∀ values : List (String × Value),
      values.foldl (fun c v => (s.update v.1 v.2 c).context) (s.evaluate seed).context =
        (s.evaluate (values.foldl (fun c v => c.set v.1 v.2) seed)).context := by
  intro s
  have h : s.Prepared := prepared_withMaxDepth fs maxDepth
  refine ⟨fun functions edits => edits_eq_evaluateWith h functions seed edits, fun values => ?_⟩
  have hedits := edits_eq_evaluateWith h .builtin seed (values.map fun v => .put v.1 (.ok v.2))
  rw [List.foldl_map, List.foldl_map] at hedits
  exact hedits

end Sheet

end Worksheet
