import Worksheet.Graph.Component
import Worksheet.Proofs.Graph.Reach

/- Worksheet Stack Layers — what the stack of a component pass holds.

   The stack falls into layers, one for each name of the path: the name itself and,
   above it, the names met below it whose visit has ended (`Layered`). All names of
   a layer lead to each other, every edge out of the ended ones has been looked at,
   and the low number of the path's name is at most the number of every name on the
   stack that such an edge leads to (`Layer`). So when a name keeps its own number
   as its low number, no edge leaves its layer for the stack below: the layer is a
   whole component, and every cycle through one of its names lies inside it
   (`Layer.onCycle_iff`).

   A name is closed once its component has left the stack. Closed names read closed
   names only, and the names collected so far are the closed ones on cycles
   (`Core`). -/
namespace Worksheet.Graph.Components

/-- The number of a name that has been met. -/
def num (c : Components) (x : String) : Nat := c.index.getD x 0

/-- The component of the name has left the stack. -/
def Closed (c : Components) (x : String) : Prop := x ∈ c.index ∧ x ∉ c.stack

/-- The name has been met, and if it is on the stack its number is at least `low`. -/
def Seen (c : Components) (low : Nat) (y : String) : Prop :=
  y ∈ c.index ∧ (y ∈ c.stack → low ≤ c.num y)

/-- What holds of one layer of the stack: the path's name `f.name`, the ended names
`above` it, and the stack `below` it. -/
structure Layer (g : Graph) (c : Components) (f : Frame) (above below : List String) : Prop where
  rest_reads : ∀ y ∈ f.rest, g.Reads f.name y
  looked : ∀ y, g.Reads f.name y → y ∈ f.rest ∨ c.Seen (c.lowOf f.name) y
  ended : ∀ x ∈ above, ∀ y, g.Reads x y → c.Seen (c.lowOf f.name) y
  whole : ∀ x ∈ above, g.Leads f.name x ∧ g.Leads x f.name
  anchor : ∃ u ∈ f.name :: below, g.Leads f.name u ∧ c.num u = c.lowOf f.name

/-- The stack is made of the layers of a path, and each name of the path reads the
next one. -/
inductive Layered (g : Graph) (c : Components) : List Frame → List String → Prop
  | nil : Layered g c [] []
  | cons {f : Frame} {path : List Frame} {above below : List String}
      (layer : Layer g c f above below)
      (edge : ∀ p ∈ path.head?, g.Reads p.name f.name)
      (rest : Layered g c path below) :
      Layered g c (f :: path) (above ++ f.name :: below)

/-- What holds of a pass apart from its path. -/
structure Core (g : Graph) (c : Components) : Prop where
  met : ∀ x ∈ c.stack, x ∈ c.index
  low_iff : ∀ x, x ∈ c.low ↔ x ∈ c.index
  num_lt : ∀ x ∈ c.index, c.num x < c.count
  sorted : c.stack.Pairwise fun a b => c.num b < c.num a
  onStack_iff : ∀ x, x ∈ c.onStack ↔ x ∈ c.stack
  closed : ∀ x, c.Closed x → ∀ y, g.Reads x y → c.Closed y
  cyclic_iff : ∀ x, x ∈ c.cyclic ↔ c.Closed x ∧ g.OnCycle x
  rooted : ∀ x ∈ c.index, ∃ s, g.isDeclared s = true ∧ g.Leads s x
  declared : ∀ s ∈ c.starts, g.isDeclared s = true
  started : ∀ s, g.isDeclared s = true → s ∈ c.starts ∨ s ∈ c.index

variable {g : Graph} {c c' : Components}

/-! ## From one state to the next -/

/-- The later state knows the same numbers, and nothing that was met comes onto its
stack. -/
def Extends (c c' : Components) : Prop :=
  ∀ y ∈ c.index, y ∈ c'.index ∧ c'.num y = c.num y ∧ (y ∈ c'.stack → y ∈ c.stack)

theorem Seen.mono {low low' : Nat} {y : String} (h : c.Seen low y) (hext : c.Extends c')
    (hle : low' ≤ low) : c'.Seen low' y := by
  obtain ⟨hmet, hnum, hstack⟩ := hext y h.1
  refine ⟨hmet, fun hy => ?_⟩
  have := h.2 (hstack hy)
  omega

theorem Layer.update {name : String} {rest rest' above below : List String}
    (h : Layer g c ⟨name, rest⟩ above below) (hext : c.Extends c')
    (hle : c'.lowOf name ≤ c.lowOf name) (hsub : ∀ y ∈ rest', y ∈ rest)
    (hrest : ∀ y ∈ rest, y ∈ rest' ∨ c'.Seen (c'.lowOf name) y)
    (hanchor : ∃ u ∈ name :: below, g.Leads name u ∧ c'.num u = c'.lowOf name) :
    Layer g c' ⟨name, rest'⟩ above below where
  rest_reads y hy := h.rest_reads y (hsub y hy)
  looked y hy := by
    rcases h.looked y hy with hy | hy
    · exact hrest y hy
    · exact .inr (hy.mono hext hle)
  ended x hx y hy := (h.ended x hx y hy).mono hext hle
  whole := h.whole
  anchor := hanchor

theorem Layer.mono {f : Frame} {above below : List String} (h : Layer g c f above below)
    (hext : c.Extends c') (hlow : c'.lowOf f.name = c.lowOf f.name)
    (hmet : ∀ x ∈ f.name :: below, x ∈ c.index) : Layer g c' f above below := by
  obtain ⟨u, hu, hlead, hnum⟩ := h.anchor
  refine h.update hext (Nat.le_of_eq hlow) (fun _ hy => hy) (fun _ hy => .inl hy) ⟨u, hu, hlead, ?_⟩
  rw [(hext u (hmet u hu)).2.1, hnum, hlow]

theorem Layered.mono {path : List Frame} {stack : List String} (h : Layered g c path stack)
    (hext : c.Extends c') (hlow : ∀ f ∈ path, c'.lowOf f.name = c.lowOf f.name)
    (hmet : ∀ x ∈ stack, x ∈ c.index) : Layered g c' path stack := by
  induction h with
  | nil => exact .nil
  | cons layer edge _ ih =>
    have hbelow := fun x hx => hmet x (List.mem_append_right _ hx)
    exact .cons (layer.mono hext (hlow _ List.mem_cons_self) hbelow) edge
      (ih (fun f hf => hlow f (List.mem_cons_of_mem _ hf))
        (fun x hx => hbelow x (List.mem_cons_of_mem _ hx)))

theorem Layered.name_mem {path : List Frame} {stack : List String} (h : Layered g c path stack) :
    ∀ f ∈ path, f.name ∈ stack := by
  induction h with
  | nil => simp
  | cons _ _ _ ih =>
    intro f hf
    rcases List.mem_cons.mp hf with rfl | hf
    · exact List.mem_append_right _ List.mem_cons_self
    · exact List.mem_append_right _ (List.mem_cons_of_mem _ (ih f hf))

/-- Every name of the stack leads to the last name of the path. -/
theorem Layered.leads_head {f : Frame} {path : List Frame} {stack : List String}
    (h : Layered g c (f :: path) stack) : ∀ x ∈ stack, g.Leads x f.name := by
  -- the names of a layer lead to its path's name, which the next edge of the path leaves
  induction path generalizing f stack with
  | nil =>
    cases h with
    | cons layer edge rest =>
      cases rest
      intro x hx
      rcases List.mem_append.mp hx with hx | hx
      · exact (layer.whole x hx).2
      · rw [List.mem_singleton.mp hx]
  | cons p path ih =>
    cases h with
    | cons layer edge rest =>
      intro x hx
      rcases List.mem_append.mp hx with hx | hx
      · exact (layer.whole x hx).2
      · rcases List.mem_cons.mp hx with rfl | hx
        · exact .refl
        · exact (ih rest x hx).tail (edge p rfl)

/-! ## Lowering a number -/

theorem lowOf_lower {name : String} {bound : Nat} (h : name ∈ c.low) :
    (c.lower name bound).lowOf name = min (c.lowOf name) bound := by
  simp only [lowOf, lower, Std.ExtTreeMap.getD_eq_getD_getElem?,
    Std.ExtTreeMap.getElem?_modify_self, Std.ExtTreeMap.getElem?_eq_some_getElem h,
    Option.map_some, Option.getD_some]

theorem lowOf_lower_of_ne {name x : String} {bound : Nat} (h : x ≠ name) :
    (c.lower name bound).lowOf x = c.lowOf x := by
  have hcmp : ¬ compare name x = .eq := fun hc => h (Std.LawfulEqCmp.compare_eq_iff_eq.mp hc).symm
  simp only [lowOf, lower, Std.ExtTreeMap.getD_eq_getD_getElem?, Std.ExtTreeMap.getElem?_modify,
    if_neg hcmp]

theorem extends_lower (c : Components) (name : String) (bound : Nat) :
    c.Extends (c.lower name bound) := fun _ hy => ⟨hy, rfl, id⟩

theorem Core.lower (h : Core g c) (name : String) (bound : Nat) : Core g (c.lower name bound) :=
  { h with low_iff := fun x => Std.ExtTreeMap.mem_modify.trans (h.low_iff x) }

/-- The low number of the path's name is at most its own number. -/
theorem Layer.lowOf_le {f : Frame} {above below : List String} (h : Layer g c f above below)
    (hsorted : (f.name :: below).Pairwise fun a b => c.num b < c.num a) :
    c.lowOf f.name ≤ c.num f.name := by
  obtain ⟨u, hu, -, hnum⟩ := h.anchor
  rcases List.mem_cons.mp hu with rfl | hu
  · exact Nat.le_of_eq hnum.symm
  · have := List.rel_of_pairwise_cons hsorted hu
    omega

/-- The lesser of the low number of the path's name and the number of a name that it
leads to is again the number of such a name, in its layer or below. -/
theorem Layer.exists_min {f : Frame} {above below : List String} {u : String}
    (h : Layer g c f above below)
    (hsorted : (above ++ f.name :: below).Pairwise fun a b => c.num b < c.num a)
    (hu : u ∈ above ++ f.name :: below) (hleads : g.Leads f.name u) :
    ∃ v ∈ f.name :: below, g.Leads f.name v ∧ c.num v = min (c.lowOf f.name) (c.num u) := by
  obtain ⟨-, hbelow, habove⟩ := List.pairwise_append.mp hsorted
  by_cases hlt : c.lowOf f.name ≤ c.num u
  · rw [Nat.min_eq_left hlt]
    exact h.anchor
  · -- a number below the low number is below that of `f.name`, so `u` is further down
    have hle := h.lowOf_le hbelow
    have hmem : u ∈ f.name :: below := by
      rcases List.mem_append.mp hu with ha | hb
      · have := habove u ha f.name List.mem_cons_self
        omega
      · exact hb
    exact ⟨u, hmem, hleads, (Nat.min_eq_right (Nat.le_of_not_le hlt)).symm⟩

theorem Layered.cons_inv {f : Frame} {path : List Frame} {stack : List String}
    (h : Layered g c (f :: path) stack) :
    ∃ above below, stack = above ++ f.name :: below ∧ Layer g c f above below ∧
      (∀ p ∈ path.head?, g.Reads p.name f.name) ∧ Layered g c path below := by
  cases h with
  | cons layer edge rest => exact ⟨_, _, rfl, layer, edge, rest⟩

/-! ## Meeting a name -/

section
variable {name : String}

theorem mem_index_visit {x : String} : x ∈ (c.visit g name).index ↔ name = x ∨ x ∈ c.index := by
  show x ∈ c.index.insert name c.count ↔ _
  rw [Std.ExtTreeMap.mem_insert, Std.LawfulEqCmp.compare_eq_iff_eq]

theorem num_visit_self : (c.visit g name).num name = c.count := Std.ExtTreeMap.getD_insert_self

theorem lowOf_visit_self : (c.visit g name).lowOf name = c.count :=
  Std.ExtTreeMap.getD_insert_self

/-- The layer of a name that has just been met. -/
theorem layer_visit (below : List String) :
    Layer g (c.visit g name) ⟨name, (g.dependencies name).toList⟩ [] below where
  rest_reads _ hy := Std.ExtTreeSet.mem_toList.mp hy
  looked _ hy := .inl (Std.ExtTreeSet.mem_toList.mpr hy)
  ended _ hx := absurd hx List.not_mem_nil
  whole _ hx := absurd hx List.not_mem_nil
  anchor := ⟨name, List.mem_cons_self, .refl, num_visit_self.trans lowOf_visit_self.symm⟩

variable (hnew : name ∉ c.index)

include hnew

theorem compare_ne_of_met {x : String} (hx : x ∈ c.index) : ¬ compare name x = .eq := by
  intro hc
  rw [Std.LawfulEqCmp.compare_eq_iff_eq.mp hc] at hnew
  exact hnew hx

theorem num_visit_of_met {x : String} (hx : x ∈ c.index) : (c.visit g name).num x = c.num x := by
  simp only [num, visit, Std.ExtTreeMap.getD_insert, if_neg (compare_ne_of_met hnew hx)]

theorem lowOf_visit_of_met (h : Core g c) {x : String} (hx : x ∈ c.index) :
    (c.visit g name).lowOf x = c.lowOf x := by
  have hlow : x ∈ c.low := (h.low_iff x).mpr hx
  simp only [lowOf, visit, Std.ExtTreeMap.getD_eq_getD_getElem?, Std.ExtTreeMap.getElem?_insert,
    if_neg (compare_ne_of_met hnew hx), Std.ExtTreeMap.getElem?_eq_some_getElem hlow, Option.getD_some]

theorem extends_visit : c.Extends (c.visit g name) := by
  intro y hy
  refine ⟨mem_index_visit.mpr (.inr hy), num_visit_of_met hnew hy, ?_⟩
  intro hstack
  rcases List.mem_cons.mp hstack with rfl | hstack
  · exact absurd hy hnew
  · exact hstack

theorem closed_visit {x : String} : (c.visit g name).Closed x ↔ c.Closed x := by
  simp only [Closed, mem_index_visit]
  show _ ∧ x ∉ name :: c.stack ↔ _
  rw [List.mem_cons]
  constructor
  · rintro ⟨rfl | hx, hs⟩
    · exact absurd (.inl rfl) hs
    · exact ⟨hx, fun h => hs (.inr h)⟩
  · rintro ⟨hx, hs⟩
    refine ⟨.inr hx, ?_⟩
    rintro (rfl | h)
    · exact hnew hx
    · exact hs h

theorem Core.visit (h : Core g c) (hroot : ∃ s, g.isDeclared s = true ∧ g.Leads s name) :
    Core g (c.visit g name) where
  met x hx := by
    rcases List.mem_cons.mp hx with rfl | hx
    · exact mem_index_visit.mpr (.inl rfl)
    · exact mem_index_visit.mpr (.inr (h.met x hx))
  low_iff x := by
    rw [mem_index_visit]
    show x ∈ c.low.insert name c.count ↔ _
    rw [Std.ExtTreeMap.mem_insert, Std.LawfulEqCmp.compare_eq_iff_eq, h.low_iff]
  num_lt x hx := by
    show _ < c.count + 1
    rcases mem_index_visit.mp hx with rfl | hx
    · rw [num_visit_self]
      omega
    · rw [num_visit_of_met hnew hx]
      have := h.num_lt x hx
      omega
  sorted := by
    refine List.pairwise_cons.mpr ⟨?_, ?_⟩
    · intro x hx
      rw [num_visit_self, num_visit_of_met hnew (h.met x hx)]
      exact h.num_lt x (h.met x hx)
    · refine h.sorted.imp_of_mem ?_
      intro a b ha hb hlt
      rwa [num_visit_of_met hnew (h.met a ha), num_visit_of_met hnew (h.met b hb)]
  onStack_iff x := by
    show x ∈ c.onStack.insert name ↔ x ∈ name :: c.stack
    rw [NameSet.mem_insert, List.mem_cons, h.onStack_iff, eq_comm]
  closed x hx y hy := (closed_visit hnew).mpr (h.closed x ((closed_visit hnew).mp hx) y hy)
  cyclic_iff x := by
    rw [closed_visit hnew]
    exact h.cyclic_iff x
  rooted x hx := by
    rcases mem_index_visit.mp hx with rfl | hx
    · exact hroot
    · exact h.rooted x hx
  declared := h.declared
  started s hs := by
    rcases h.started s hs with hs | hs
    · exact .inl hs
    · exact .inr (mem_index_visit.mpr (.inr hs))

end

/-! ## Closing a component -/

theorem popTo_append {root : String} {above below : List String} (h : root ∉ above) :
    popTo root (above ++ root :: below) = (above ++ [root], below) := by
  induction above with
  | nil => simp [popTo]
  | cons x above ih =>
    obtain ⟨hne, hrest⟩ := not_or.mp (mt List.mem_cons.mpr h)
    rw [List.cons_append, popTo, if_neg (Ne.symm hne), ih hrest]
    rfl

theorem mem_foldl_erase {l : List String} {s : NameSet} {x : String} :
    x ∈ l.foldl .erase s ↔ x ∈ s ∧ x ∉ l := by
  induction l generalizing s with
  | nil => simp
  | cons a l ih =>
    rw [List.foldl_cons, ih, Std.ExtTreeSet.mem_erase, List.mem_cons, not_or, ne_eq,
      Std.LawfulEqCmp.compare_eq_iff_eq, eq_comm (a := a)]
    constructor
    · rintro ⟨⟨hne, hs⟩, hl⟩
      exact ⟨hs, hne, hl⟩
    · rintro ⟨hs, hne, hl⟩
      exact ⟨⟨hne, hs⟩, hl⟩

/-- Names that lead to each other are on cycles together. -/
theorem onCycle_of_leads {a b : String} (hab : g.Leads a b) (hba : g.Leads b a)
    (h : g.OnCycle a) : g.OnCycle b :=
  .trans_right hba (.trans_left h hab)

/-- Different names that lead to each other are on a cycle. -/
theorem onCycle_of_ne {a b : String} (hab : g.Leads a b) (hba : g.Leads b a) (hne : a ≠ b) :
    g.OnCycle a := by
  rcases Relation.reflTransGen_iff_eq_or_transGen.mp hab with rfl | h
  · exact absurd rfl hne
  · exact .trans_left h hba

theorem Core.closed_of_leads {x y : String} (h : Core g c) (hx : c.Closed x) (hlead : g.Leads x y) :
    c.Closed y := by
  induction hlead with
  | refl => exact hx
  | tail _ hread ih => exact h.closed _ ih _ hread

theorem mem_stack_iff {name x : String} {above below : List String}
    (hstack : c.stack = above ++ name :: below) :
    x ∈ c.stack ↔ x ∈ above ++ [name] ∨ x ∈ below := by
  rw [hstack]
  simp [or_assoc]

section
variable {name : String} {above below : List String} (h : Core g c)
  (layer : Layer g c ⟨name, []⟩ above below) (hstack : c.stack = above ++ name :: below)
  (hroot : c.num name = c.lowOf name)

include h hstack

theorem Core.not_mem_above : name ∉ above := by
  intro hmem
  obtain ⟨-, -, habove⟩ := List.pairwise_append.mp (hstack ▸ h.sorted)
  exact Nat.lt_irrefl _ (habove name hmem name List.mem_cons_self)

theorem Core.not_mem_below : ∀ x ∈ below, x ∉ above ++ [name] := by
  intro x hx hmem
  obtain ⟨-, hbelow, habove⟩ := List.pairwise_append.mp (hstack ▸ h.sorted)
  rcases List.mem_append.mp hmem with hmem | hmem
  · exact Nat.lt_irrefl _ (habove x hmem x (List.mem_cons_of_mem name hx))
  · rw [List.mem_singleton.mp hmem] at hx
    exact Nat.lt_irrefl _ (List.rel_of_pairwise_cons hbelow hx)

theorem Core.stack_close : (c.close g name).stack = below := by
  show (popTo name c.stack).2 = below
  rw [hstack, popTo_append (h.not_mem_above hstack)]

theorem Core.closed_close {x : String} :
    (c.close g name).Closed x ↔ c.Closed x ∨ x ∈ above ++ [name] := by
  have hx : x ∈ c.stack ↔ x ∈ above ++ [name] ∨ x ∈ below := mem_stack_iff hstack
  show x ∈ c.index ∧ x ∉ (c.close g name).stack ↔ (x ∈ c.index ∧ x ∉ c.stack) ∨ _
  rw [h.stack_close hstack, hx, not_or]
  constructor
  · rintro ⟨hmet, hbelow⟩
    by_cases hin : x ∈ above ++ [name]
    · exact .inr hin
    · exact .inl ⟨hmet, hin, hbelow⟩
  · rintro (⟨hmet, -, hbelow⟩ | hin)
    · exact ⟨hmet, hbelow⟩
    · exact ⟨h.met x (hx.mpr (.inl hin)), fun hbelow => h.not_mem_below hstack x hbelow hin⟩

theorem Core.extends_close : c.Extends (c.close g name) := by
  intro y hy
  refine ⟨hy, rfl, ?_⟩
  rw [h.stack_close hstack, hstack]
  exact fun hb => List.mem_append_right above (List.mem_cons_of_mem name hb)

theorem Core.mem_cyclic_close {x : String} : x ∈ (c.close g name).cyclic ↔
    x ∈ c.cyclic ∨ x ∈ above ++ [name] ∧ (above ≠ [] ∨ g.Reads name name) := by
  have hmembers : (popTo name c.stack).1 = above ++ [name] := by
    rw [hstack, popTo_append (h.not_mem_above hstack)]
  have hcond : (decide (1 < (above ++ [name]).length) || (g.dependencies name).contains name) =
      true ↔ above ≠ [] ∨ g.Reads name name := by
    rw [Bool.or_eq_true, decide_eq_true_eq, List.length_append, List.length_singleton,
      ← List.length_pos_iff]
    exact or_congr (by omega) Iff.rfl
  show x ∈ (if decide (1 < (popTo name c.stack).1.length) || (g.dependencies name).contains name then
    c.cyclic.insertMany (popTo name c.stack).1 else c.cyclic) ↔ _
  rw [hmembers]
  by_cases hc : above ≠ [] ∨ g.Reads name name
  · rw [if_pos (hcond.mpr hc), NameSet.mem_insertMany, or_comm]
    simp only [hc, and_true]
  · rw [if_neg (mt hcond.mp hc)]
    simp only [hc, and_false, or_false]

include layer hroot

/-- No edge leads from the layer of a root to the stack below it. -/
theorem Layer.reads_inside {x y : String} (hx : x ∈ above ++ [name]) (hy : g.Reads x y) :
    y ∈ above ++ [name] ∨ c.Closed y := by
  have hseen : c.Seen (c.lowOf name) y := by
    rcases List.mem_append.mp hx with hx | hx
    · exact layer.ended x hx y hy
    · rw [List.mem_singleton.mp hx] at hy
      exact (layer.looked y hy).resolve_left List.not_mem_nil
  by_cases hmem : y ∈ c.stack
  · rcases (mem_stack_iff hstack).mp hmem with hin | hbelow
    · exact .inl hin
    · -- a name below the root has a smaller number than the root's low number
      obtain ⟨-, hsorted, -⟩ := List.pairwise_append.mp (hstack ▸ h.sorted)
      have hlt := List.rel_of_pairwise_cons hsorted hbelow
      have hle := hseen.2 hmem
      omega
  · exact .inr ⟨hseen.1, hmem⟩

/-- The members of a root's layer are on a cycle if there is more than one or the
root reads itself, and only then. -/
theorem Layer.onCycle_iff {x : String} (hx : x ∈ above ++ [name]) :
    g.OnCycle x ↔ above ≠ [] ∨ g.Reads name name := by
  have hwhole : g.Leads name x ∧ g.Leads x name := by
    rcases List.mem_append.mp hx with hx | hx
    · exact layer.whole x hx
    · rw [List.mem_singleton.mp hx]
      exact ⟨.refl, .refl⟩
  constructor
  · intro hcycle
    obtain ⟨y, hread, hback⟩ := Relation.TransGen.head'_iff.mp
      (onCycle_of_leads hwhole.2 hwhole.1 hcycle)
    have hname : name ∈ above ++ [name] := List.mem_append_right above List.mem_cons_self
    rcases Layer.reads_inside h layer hstack hroot hname hread with hy | hy
    · rcases List.mem_append.mp hy with hy | hy
      · exact .inl (List.ne_nil_of_mem hy)
      · rw [List.mem_singleton.mp hy] at hread
        exact .inr hread
    · -- closed names lead to closed names only, and the root is on the stack
      have hclosed : c.Closed name := h.closed_of_leads hy hback
      exact absurd ((mem_stack_iff hstack).mpr (.inl hname)) hclosed.2
  · intro hcond
    -- it is enough that the root is on a cycle, since all members lead to each other
    refine onCycle_of_leads hwhole.1 hwhole.2 ?_
    rcases hcond with hne | hself
    · obtain ⟨a, ha⟩ := List.exists_mem_of_ne_nil above hne
      obtain ⟨hto, hfrom⟩ := layer.whole a ha
      refine onCycle_of_ne hto hfrom ?_
      rintro rfl
      exact h.not_mem_above hstack ha
    · exact .single hself

/-- Closing the component of a root keeps what holds apart from the path. -/
theorem Core.close : Core g (c.close g name) where
  met x hx := by
    rw [h.stack_close hstack] at hx
    exact h.met x ((mem_stack_iff hstack).mpr (.inr hx))
  low_iff := h.low_iff
  num_lt := h.num_lt
  sorted := by
    rw [h.stack_close hstack]
    exact (List.pairwise_append.mp (hstack ▸ h.sorted)).2.1.of_cons
  onStack_iff x := by
    show x ∈ (popTo name c.stack).1.foldl .erase c.onStack ↔ x ∈ (c.close g name).stack
    rw [mem_foldl_erase, h.onStack_iff, h.stack_close hstack, mem_stack_iff hstack, hstack,
      popTo_append (h.not_mem_above hstack)]
    constructor
    · rintro ⟨hin | hbelow, hout⟩
      · exact absurd hin hout
      · exact hbelow
    · exact fun hbelow => ⟨.inr hbelow, h.not_mem_below hstack x hbelow⟩
  closed x hx y hy := by
    rw [h.closed_close hstack] at hx ⊢
    rcases hx with hx | hx
    · exact .inl (h.closed x hx y hy)
    · exact (Layer.reads_inside h layer hstack hroot hx hy).symm
  cyclic_iff x := by
    rw [h.closed_close hstack, h.mem_cyclic_close hstack, h.cyclic_iff]
    constructor
    · rintro (⟨hclosed, hcycle⟩ | ⟨hin, hcond⟩)
      · exact ⟨.inl hclosed, hcycle⟩
      · exact ⟨.inr hin, (Layer.onCycle_iff h layer hstack hroot hin).mpr hcond⟩
    · rintro ⟨hclosed | hin, hcycle⟩
      · exact .inl ⟨hclosed, hcycle⟩
      · exact .inr ⟨hin, (Layer.onCycle_iff h layer hstack hroot hin).mp hcycle⟩
  rooted := h.rooted
  declared := h.declared
  started := h.started

end

end Worksheet.Graph.Components
