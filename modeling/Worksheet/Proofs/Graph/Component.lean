import Worksheet.Proofs.Graph.Layer

/- Worksheet Component Theory — the pass returns exactly the names on cycles.

   Each step keeps the layers of the stack and what holds beside them
   (`Invariant.step`): a name looked at for the first time begins a layer, a name
   looked at again lowers a number, and a name whose visit ends either closes its
   layer or hands it to the name before it on the path. Each step also takes one off
   a bound of the steps (`measure_step`), so the pass comes to its end with every
   name met closed. -/
namespace Worksheet.Graph.Components

/-- What each step keeps. -/
structure Invariant (g : Graph) (c : Components) : Prop where
  core : Core g c
  layered : Layered g c c.frames c.stack

variable {g : Graph} {c c' : Components}

/-! ## Looking at a name -/

/-- A name looked at for the first time is met and begins a layer of its own. -/
theorem Invariant.look_new {name next : String} {rest : List String} {path : List Frame}
    (h : Core g c) (hlayered : Layered g c (⟨name, next :: rest⟩ :: path) c.stack)
    (hframes : c.frames = ⟨name, rest⟩ :: path) (hnew : next ∉ c.index) :
    Invariant g (c.visit g next) := by
  obtain ⟨above, below, hstack, layer, edge, tail⟩ := hlayered.cons_inv
  have hread : g.Reads name next := layer.rest_reads next List.mem_cons_self
  have hmet : ∀ x ∈ name :: below, x ∈ c.index := fun x hx =>
    h.met x (hstack ▸ List.mem_append_right above hx)
  have hname : name ∈ c.index := hmet name List.mem_cons_self
  obtain ⟨s, hs, hlead⟩ := h.rooted name hname
  refine ⟨h.visit hnew ⟨s, hs, hlead.tail hread⟩, ?_⟩
  have hext : c.Extends (c.visit g next) := extends_visit hnew
  have hlow : (c.visit g next).lowOf name = c.lowOf name := lowOf_visit_of_met hnew h hname
  obtain ⟨u, hu, hlu, hnum⟩ := layer.anchor
  -- the new name has the greatest number, so the low number of `name` stays below it
  have hseen : (c.visit g next).Seen ((c.visit g next).lowOf name) next := by
    refine ⟨mem_index_visit.mpr (.inl rfl), fun _ => ?_⟩
    rw [num_visit_self, hlow, ← hnum]
    exact Nat.le_of_lt (h.num_lt u (hmet u hu))
  have hlayer : Layer g (c.visit g next) ⟨name, rest⟩ above below := by
    refine layer.update hext (Nat.le_of_eq hlow) (fun y hy => List.mem_cons_of_mem next hy) ?_
      ⟨u, hu, hlu, ?_⟩
    · intro y hy
      rcases List.mem_cons.mp hy with rfl | hy
      · exact .inr hseen
      · exact .inl hy
    · rw [(hext u (hmet u hu)).2.1, hnum, hlow]
  have htail : Layered g (c.visit g next) path below :=
    tail.mono hext (fun f hf => lowOf_visit_of_met hnew h
      (hmet f.name (List.mem_cons_of_mem name (tail.name_mem f hf))))
      (fun x hx => hmet x (List.mem_cons_of_mem name hx))
  show Layered g (c.visit g next) (⟨next, (g.dependencies next).toList⟩ :: c.frames) (next :: c.stack)
  rw [hframes, hstack, ← List.nil_append (next :: _)]
  refine .cons (layer_visit _) ?_ (.cons hlayer edge htail)
  intro p hp
  obtain rfl := Option.some.inj hp
  exact hread

/-- A name looked at again, on the stack, lowers the low number to its own. -/
theorem Invariant.look_back {name next : String} {rest : List String} {path : List Frame}
    (h : Core g c) (hlayered : Layered g c (⟨name, next :: rest⟩ :: path) c.stack)
    (hframes : c.frames = ⟨name, rest⟩ :: path) (hnext : next ∈ c.stack) :
    Invariant g (c.lower name (c.num next)) := by
  obtain ⟨above, below, hstack, layer, edge, tail⟩ := hlayered.cons_inv
  have hread : g.Reads name next := layer.rest_reads next List.mem_cons_self
  have hsorted := hstack ▸ h.sorted
  obtain ⟨-, hbelow, -⟩ := List.pairwise_append.mp hsorted
  have hname : name ∈ c.low :=
    (h.low_iff name).mpr (h.met name (hstack ▸ List.mem_append_right above List.mem_cons_self))
  have hlow : (c.lower name (c.num next)).lowOf name = min (c.lowOf name) (c.num next) :=
    lowOf_lower hname
  refine ⟨h.lower name _, ?_⟩
  have hlayer : Layer g (c.lower name (c.num next)) ⟨name, rest⟩ above below := by
    refine layer.update (extends_lower c name _) ?_ (fun y hy => List.mem_cons_of_mem next hy) ?_ ?_
    · rw [hlow]
      exact Nat.min_le_left ..
    · intro y hy
      rcases List.mem_cons.mp hy with rfl | hy
      · refine .inr ⟨h.met y hnext, fun _ => ?_⟩
        rw [hlow]
        exact Nat.min_le_right ..
      · exact .inl hy
    · rw [hlow]
      exact layer.exists_min hsorted (hstack ▸ hnext) (.single hread)
  have htail : Layered g (c.lower name (c.num next)) path below := by
    refine tail.mono (extends_lower c name _) ?_ ?_
    · intro f hf
      have hlt := List.rel_of_pairwise_cons hbelow (tail.name_mem f hf)
      refine lowOf_lower_of_ne ?_
      rintro rfl
      exact Nat.lt_irrefl _ hlt
    · exact fun x hx => h.met x (hstack ▸ List.mem_append_right above (List.mem_cons_of_mem _ hx))
  show Layered g (c.lower name (c.num next)) c.frames c.stack
  rw [hframes, hstack]
  exact .cons hlayer edge htail

/-- A closed name that is looked at changes nothing. -/
theorem Invariant.look_closed {name next : String} {rest : List String} {path : List Frame}
    (h : Core g c) (hlayered : Layered g c (⟨name, next :: rest⟩ :: path) c.stack)
    (hframes : c.frames = ⟨name, rest⟩ :: path) (hnext : c.Closed next) : Invariant g c := by
  obtain ⟨above, below, hstack, layer, edge, tail⟩ := hlayered.cons_inv
  refine ⟨h, ?_⟩
  rw [hframes, hstack]
  refine .cons (layer.update (fun _ hy => ⟨hy, rfl, id⟩) (Nat.le_refl _)
    (fun y hy => List.mem_cons_of_mem next hy) ?_ layer.anchor) edge tail
  intro y hy
  rcases List.mem_cons.mp hy with rfl | hy
  · exact .inr ⟨hnext.1, fun hs => absurd hs hnext.2⟩
  · exact .inl hy

/-! ## Ending a visit -/

theorem back_eq (c : Components) (path : List Frame) (low : Nat) :
    (c.back path low).frames = path ∧ (c.back path low).stack = c.stack ∧
      (c.back path low).index = c.index ∧ (c.back path low).starts = c.starts := by
  cases path <;> exact ⟨rfl, rfl, rfl, rfl⟩

theorem Core.back (h : Core g c) (path : List Frame) (low : Nat) : Core g (c.back path low) := by
  cases path with
  | nil => exact { h with }
  | cons parent path =>
    have h' : Core g { c with frames := parent :: path } := { h with }
    exact h'.lower parent.name low

theorem extends_back (c : Components) (path : List Frame) (low : Nat) :
    c.Extends (c.back path low) := by
  cases path <;> exact fun _ hy => ⟨hy, rfl, id⟩

/-- The low number that is passed on is the lesser of the two. -/
theorem Core.lowOf_back (h : Core g c) {parent : Frame} (path : List Frame) (low : Nat)
    (hmem : parent.name ∈ c.stack) :
    (c.back (parent :: path) low).lowOf parent.name = min (c.lowOf parent.name) low := by
  have hlow : parent.name ∈ ({ c with frames := parent :: path } : Components).low :=
    (h.low_iff _).mpr (h.met _ hmem)
  exact lowOf_lower hlow

theorem lowOf_back_of_ne {parent : Frame} {path : List Frame} {low : Nat} {x : String}
    (hne : x ≠ parent.name) : (c.back (parent :: path) low).lowOf x = c.lowOf x :=
  lowOf_lower_of_ne hne

/-- The names of a path below its last one are others. -/
theorem Layered.ne_head {p f : Frame} {path : List Frame} {above below : List String}
    (h : Layered g c path below)
    (hsorted : (above ++ p.name :: below).Pairwise fun a b => c.num b < c.num a) (hf : f ∈ path) :
    f.name ≠ p.name := by
  intro heq
  have hlt := List.rel_of_pairwise_cons (List.pairwise_append.mp hsorted).2.1 (h.name_mem f hf)
  rw [heq] at hlt
  exact Nat.lt_irrefl _ hlt

/-- The layer of a name whose visit has ended joins the layer of the name before it, if
the two names lead to each other. -/
theorem Layer.join {p : Frame} {name : String} {above below above' below' : List String}
    (layer : Layer g c ⟨name, []⟩ above below) (layer' : Layer g c' p above' below')
    (hext : c.Extends c') (hle : c'.lowOf p.name ≤ c.lowOf name)
    (hedge : g.Reads p.name name) (hback : g.Leads name p.name) :
    Layer g c' p (above ++ name :: above') below' :=
  { layer' with
    ended := by
      intro x hx y hy
      rcases List.mem_append.mp hx with hx | hx
      · exact (layer.ended x hx y hy).mono hext hle
      · rcases List.mem_cons.mp hx with rfl | hx
        · exact ((layer.looked y hy).resolve_left List.not_mem_nil).mono hext hle
        · exact layer'.ended x hx y hy
    whole := by
      intro x hx
      rcases List.mem_append.mp hx with hx | hx
      · obtain ⟨hto, hfrom⟩ := layer.whole x hx
        exact ⟨.head hedge hto, hfrom.trans hback⟩
      · rcases List.mem_cons.mp hx with rfl | hx
        · exact ⟨.single hedge, hback⟩
        · exact layer'.whole x hx }

section
variable {name : String} {path : List Frame} {above below : List String} (h : Core g c)
  (layer : Layer g c ⟨name, []⟩ above below) (edge : ∀ p ∈ path.head?, g.Reads p.name name)
  (tail : Layered g c path below) (hstack : c.stack = above ++ name :: below)

include h tail hstack

/-- When a root hands its low number on, neither the root nor a name of the path before
it gets another one. -/
theorem Core.lowOf_back_of_root (hroot : c.num name = c.lowOf name) {x : String}
    (hx : x = name ∨ ∃ f ∈ path, f.name = x) :
    (c.back path (c.lowOf name)).lowOf x = c.lowOf x := by
  obtain ⟨-, hsorted, -⟩ := List.pairwise_append.mp (hstack ▸ h.sorted)
  cases path with
  | nil => rfl
  | cons p path =>
    obtain ⟨above', below', hbelow, layer', -, tail'⟩ := tail.cons_inv
    subst hbelow
    have hmem : p.name ∈ above' ++ p.name :: below' := List.mem_append_right _ List.mem_cons_self
    have hlt : c.num p.name < c.num name := List.rel_of_pairwise_cons hsorted hmem
    rcases hx with rfl | ⟨f, hf, rfl⟩
    · refine lowOf_back_of_ne ?_
      intro heq
      rw [heq] at hlt
      exact Nat.lt_irrefl _ hlt
    · rcases List.mem_cons.mp hf with rfl | hf
      · -- its low number is at most its own number, which is less than the root's
        have hle := layer'.lowOf_le (List.pairwise_append.mp hsorted.of_cons).2.1
        rw [h.lowOf_back path _ (hstack ▸ List.mem_append_right _ (List.mem_cons_of_mem _ hmem))]
        omega
      · exact lowOf_back_of_ne (tail'.ne_head hsorted.of_cons hf)

include layer

/-- A root closes its layer, and the path before it goes on. -/
theorem Invariant.leave_root (hroot : c.num name = c.lowOf name) :
    Invariant g ((c.back path (c.lowOf name)).close g name) := by
  obtain ⟨hframes, hstack', -, -⟩ := back_eq c path (c.lowOf name)
  have hmet : ∀ x ∈ name :: below, x ∈ c.index := fun x hx =>
    h.met x (hstack ▸ List.mem_append_right above hx)
  have hext : c.Extends (c.back path (c.lowOf name)) := extends_back c path _
  have hlow : (c.back path (c.lowOf name)).lowOf name = c.lowOf name :=
    h.lowOf_back_of_root tail hstack hroot (.inl rfl)
  have hlows : ∀ f ∈ path, (c.back path (c.lowOf name)).lowOf f.name = c.lowOf f.name :=
    fun f hf => h.lowOf_back_of_root tail hstack hroot (.inr ⟨f, hf, rfl⟩)
  have hcore : Core g (c.back path (c.lowOf name)) := h.back path _
  have hlayer : Layer g (c.back path (c.lowOf name)) ⟨name, []⟩ above below :=
    layer.mono hext hlow hmet
  have hroot' : (c.back path (c.lowOf name)).num name =
      (c.back path (c.lowOf name)).lowOf name := by
    calc (c.back path (c.lowOf name)).num name
      _ = c.num name := (hext name (hmet name List.mem_cons_self)).2.1
      _ = c.lowOf name := hroot
      _ = (c.back path (c.lowOf name)).lowOf name := hlow.symm
  rw [← hstack'] at hstack
  refine ⟨hcore.close hlayer hstack hroot', ?_⟩
  rw [hcore.stack_close hstack]
  show Layered g _ (c.back path (c.lowOf name)).frames below
  rw [hframes]
  have hbelow : ∀ x ∈ below, x ∈ c.index := fun x hx => hmet x (List.mem_cons_of_mem name hx)
  exact (tail.mono hext hlows hbelow).mono (hcore.extends_close hstack) (fun _ _ => rfl)
    (fun x hx => (hext x (hbelow x hx)).1)

include edge

/-- The layer of a name that is no root becomes part of the layer below it. -/
theorem Invariant.leave_inner (hinner : c.num name ≠ c.lowOf name) :
    Invariant g (c.back path (c.lowOf name)) := by
  obtain ⟨hframes, hstack', -, -⟩ := back_eq c path (c.lowOf name)
  obtain ⟨-, hsorted, -⟩ := List.pairwise_append.mp (hstack ▸ h.sorted)
  have hmet : ∀ x ∈ name :: below, x ∈ c.index := fun x hx =>
    h.met x (hstack ▸ List.mem_append_right above hx)
  have hext : c.Extends (c.back path (c.lowOf name)) := extends_back c path _
  refine ⟨h.back path _, ?_⟩
  rw [hframes, hstack', hstack]
  obtain ⟨u, hu, hleads, hnum⟩ := layer.anchor
  change c.num u = c.lowOf name at hnum
  -- the low number is not the name's own, so it leads to a name further down the stack
  have hu : u ∈ below := by
    rcases List.mem_cons.mp hu with rfl | hu
    · exact absurd hnum hinner
    · exact hu
  cases path with
  | nil =>
    cases tail
    exact absurd hu List.not_mem_nil
  | cons p path =>
    have hback : g.Leads name p.name := hleads.trans (tail.leads_head u hu)
    have hedge : g.Reads p.name name := edge p rfl
    obtain ⟨above', below', hbelow, layer', edge', tail'⟩ := tail.cons_inv
    subst hbelow
    have hmem : p.name ∈ above' ++ p.name :: below' := List.mem_append_right _ List.mem_cons_self
    have hlow := h.lowOf_back path (c.lowOf name)
      (hstack ▸ List.mem_append_right above (List.mem_cons_of_mem name hmem))
    have hmin : (c.back (p :: path) (c.lowOf name)).lowOf p.name ≤ c.lowOf name := by
      rw [hlow]
      exact Nat.min_le_right ..
    have hmin' : (c.back (p :: path) (c.lowOf name)).lowOf p.name ≤ c.lowOf p.name := by
      rw [hlow]
      exact Nat.min_le_left ..
    have hanchor : ∃ v ∈ p.name :: below', g.Leads p.name v ∧
        (c.back (p :: path) (c.lowOf name)).num v =
          (c.back (p :: path) (c.lowOf name)).lowOf p.name := by
      obtain ⟨v, hv, hto, hmin⟩ := layer'.exists_min hsorted.of_cons hu (hleads.head hedge)
      refine ⟨v, hv, hto, ?_⟩
      calc (c.back (p :: path) (c.lowOf name)).num v
        _ = c.num v := (hext v (hmet v (List.mem_cons_of_mem name
              (List.mem_append_right above' hv)))).2.1
        _ = min (c.lowOf p.name) (c.lowOf name) := by rw [hmin, hnum]
        _ = (c.back (p :: path) (c.lowOf name)).lowOf p.name := hlow.symm
    have hupdate := layer'.update hext hmin' (fun _ hy => hy) (fun _ hy => .inl hy) hanchor
    have hlayer : Layer g (c.back (p :: path) (c.lowOf name)) p (above ++ name :: above') below' :=
      layer.join hupdate hext hmin hedge hback
    rw [← List.cons_append, ← List.append_assoc]
    refine .cons hlayer edge' (tail'.mono hext ?_ ?_)
    · exact fun f hf => lowOf_back_of_ne (tail'.ne_head hsorted.of_cons hf)
    · exact fun x hx => hmet x (List.mem_cons_of_mem name
        (List.mem_append_right above' (List.mem_cons_of_mem _ hx)))

end

/-! ## One step -/

/-- A start that has been met can be taken off. -/
theorem Core.drop_start {name : String} {starts : List String} (h : Core g c)
    (hstarts : c.starts = name :: starts) (hmet : name ∈ c.index) :
    Core g { c with starts := starts } := by
  refine { h with declared := ?_, started := ?_ }
  · intro s hs
    exact h.declared s (hstarts ▸ List.mem_cons_of_mem name hs)
  · intro s hs
    rcases h.started s hs with hs | hs
    · rcases List.mem_cons.mp (hstarts ▸ hs) with rfl | hs
      · exact .inr hmet
      · exact .inl hs
    · exact .inr hs

theorem getElem?_index {x : String} (hx : x ∈ c.index) : c.index[x]? = some (c.num x) := by
  rw [num, Std.ExtTreeMap.getD_eq_getD_getElem?, Std.ExtTreeMap.getElem?_eq_some_getElem hx]
  rfl

theorem Invariant.look {name next : String} {rest : List String} {path : List Frame}
    (h : Core g c) (hlayered : Layered g c (⟨name, next :: rest⟩ :: path) c.stack)
    (hframes : c.frames = ⟨name, rest⟩ :: path) : Invariant g (c.look g name next) := by
  rw [Components.look]
  by_cases hmet : next ∈ c.index
  · rw [getElem?_index hmet]
    by_cases hstack : next ∈ c.stack
    · have hon : c.onStack.contains next = true := (h.onStack_iff next).mpr hstack
      simp only [hon, if_true]
      exact .look_back h hlayered hframes hstack
    · have hon : c.onStack.contains next = false :=
        Bool.eq_false_iff.mpr (mt (h.onStack_iff next).mp hstack)
      simp only [hon, Bool.false_eq_true, if_false]
      exact .look_closed h hlayered hframes ⟨hmet, hstack⟩
  · rw [Std.ExtTreeMap.getElem?_eq_none hmet]
    exact .look_new h hlayered hframes hmet

theorem Invariant.leave {name : String} {path : List Frame} (h : Core g c)
    (hlayered : Layered g c (⟨name, []⟩ :: path) c.stack) : Invariant g (c.leave g name path) := by
  obtain ⟨above, below, hstack, layer, edge, tail⟩ := hlayered.cons_inv
  have hmet : name ∈ c.index := h.met name (hstack ▸ List.mem_append_right above List.mem_cons_self)
  rw [Components.leave, (back_eq ..).2.2.1, getElem?_index hmet]
  by_cases hroot : c.num name = c.lowOf name
  · rw [if_pos (congrArg some hroot)]
    exact .leave_root h layer tail hstack hroot
  · rw [if_neg (mt Option.some.inj hroot)]
    exact .leave_inner h layer edge tail hstack hroot

theorem Layered.stack_nil {stack : List String} (h : Layered g c [] stack) : stack = [] := by
  cases h
  rfl

theorem Invariant.step (h : Invariant g c) (hs : c.step g = some c') : Invariant g c' := by
  obtain ⟨core, layered⟩ := h
  rw [Components.step] at hs
  split at hs
  · rename_i name next rest path hframes
    obtain rfl := Option.some.inj hs
    rw [hframes] at layered
    exact .look { core with } (layered.mono (fun _ hy => ⟨hy, rfl, id⟩) (fun _ _ => rfl) core.met) rfl
  · rename_i name path hframes
    obtain rfl := Option.some.inj hs
    exact .leave core (hframes ▸ layered)
  · rename_i hframes
    have hstack : c.stack = [] := Layered.stack_nil (hframes ▸ layered)
    split at hs
    · cases hs
    · rename_i name starts hstarts
      obtain rfl := Option.some.inj hs
      have hdeclared : g.isDeclared name = true := core.declared name (hstarts ▸ List.mem_cons_self)
      by_cases hmet : name ∈ c.index
      · rw [if_pos (Std.ExtTreeMap.contains_iff_mem.mpr hmet)]
        refine ⟨core.drop_start hstarts hmet, ?_⟩
        show Layered g _ c.frames c.stack
        rw [hframes, hstack]
        exact .nil
      · rw [if_neg (mt Std.ExtTreeMap.contains_iff_mem.mp hmet)]
        have hcore := core.visit (g := g) hmet ⟨name, hdeclared, .refl⟩
        -- the path is empty, so the name that is met begins the first layer
        refine ⟨hcore.drop_start hstarts (mem_index_visit.mpr (.inl rfl)), ?_⟩
        show Layered g _ (⟨name, (g.dependencies name).toList⟩ :: c.frames) (name :: c.stack)
        rw [hframes, hstack, ← List.nil_append [name]]
        exact .cons (layer_visit []) (by simp) .nil

/-! ## The whole pass -/

/-- A bound of the steps that a pass still takes. -/
def measure (g : Graph) (c : Components) : Nat :=
  c.starts.length + totalSteps (fun f => f.rest.length + 1) c.frames +
    g.pending g.dependencies c.index.contains

/-- A name that is met adds to the path what it takes off the names not met. -/
theorem measure_visit {name : String} (hname : name ∈ g.everyName) (hnew : name ∉ c.index) :
    measure g (c.visit g name) ≤ measure g c := by
  have hdrop : g.pending g.dependencies (c.visit g name).index.contains +
      ((g.dependencies name).size + 1) ≤ g.pending g.dependencies c.index.contains := by
    refine pending_meet hname (Bool.eq_false_iff.mpr (mt Std.ExtTreeMap.contains_iff_mem.mp hnew)) ?_
    intro x
    rw [Bool.eq_iff_iff, Bool.or_eq_true, beq_iff_eq]
    exact mem_index_visit
  have hframes : (c.visit g name).frames = ⟨name, (g.dependencies name).toList⟩ :: c.frames := rfl
  have hstarts : (c.visit g name).starts = c.starts := rfl
  rw [measure, measure, hframes, hstarts, totalSteps,
    Std.ExtTreeSet.length_toList]
  omega

/-- The end of a visit goes back to the path before it, and no name is met or started
from. -/
theorem leave_eq (c : Components) (g : Graph) (name : String) (path : List Frame) :
    (c.leave g name path).frames = path ∧ (c.leave g name path).starts = c.starts ∧
      (c.leave g name path).index = c.index := by
  obtain ⟨hframes, -, hindex, hstarts⟩ := back_eq c path (c.lowOf name)
  rw [leave]
  split
  · exact ⟨hframes, hstarts, hindex⟩
  · exact ⟨hframes, hstarts, hindex⟩

theorem measure_step (hw : g.WellFormed) (h : Invariant g c) (hs : c.step g = some c') :
    measure g c' + 1 ≤ measure g c := by
  obtain ⟨core, layered⟩ := h
  rw [Components.step] at hs
  split at hs
  · rename_i name next rest path hframes
    obtain rfl := Option.some.inj hs
    obtain ⟨above, below, -, layer, -, -⟩ := (hframes ▸ layered).cons_inv
    have hread : g.Reads name next := layer.rest_reads next List.mem_cons_self
    -- the edge that is looked at leaves its frame
    have hless : measure g { c with frames := ⟨name, rest⟩ :: path } + 1 ≤ measure g c := by
      rw [measure, measure, hframes]
      simp only [totalSteps, List.length_cons]
      omega
    refine Nat.le_trans (Nat.succ_le_succ ?_) hless
    rw [look]
    split
    · rename_i hnone
      refine measure_visit (hw.mem_everyName_of_reads hread).2 fun hmet => ?_
      rw [getElem?_index hmet] at hnone
      cases hnone
    · split
      · exact Nat.le_refl _
      · exact Nat.le_refl _
  · rename_i name path hframes
    obtain rfl := Option.some.inj hs
    obtain ⟨hframes', hstarts, hindex⟩ := leave_eq c g name path
    -- only the frame of the ended visit is gone
    rw [measure, measure, hframes', hstarts, hindex, hframes, totalSteps]
    omega
  · split at hs
    · cases hs
    · rename_i name starts hstarts
      obtain rfl := Option.some.inj hs
      have hdeclared : g.isDeclared name = true := core.declared name (hstarts ▸ List.mem_cons_self)
      have hless : measure g { c with starts := starts } + 1 ≤ measure g c := by
        simp only [measure, hstarts, List.length_cons]
        omega
      refine Nat.le_trans (Nat.succ_le_succ ?_) hless
      by_cases hmet : name ∈ c.index
      · exact Nat.le_of_eq (congrArg (measure g) (if_pos (Std.ExtTreeMap.contains_iff_mem.mpr hmet)))
      · rw [if_neg (mt Std.ExtTreeMap.contains_iff_mem.mp hmet)]
        exact measure_visit (mem_everyName.mpr (.inl (mem_allNodes.mpr (.inl hdeclared)))) hmet

theorem invariant_start (g : Graph) : Invariant g (start g) where
  core :=
    { met := fun _ hx => absurd hx List.not_mem_nil
      low_iff := fun _ => Iff.rfl
      num_lt := fun _ hx => absurd hx Std.ExtTreeMap.not_mem_empty
      sorted := .nil
      onStack_iff := fun _ => iff_of_false Std.ExtTreeSet.not_mem_empty List.not_mem_nil
      closed := fun _ hx => absurd hx.1 Std.ExtTreeMap.not_mem_empty
      cyclic_iff := fun _ => iff_of_false Std.ExtTreeSet.not_mem_empty
        fun hx => Std.ExtTreeMap.not_mem_empty hx.1.1
      rooted := fun _ hx => absurd hx Std.ExtTreeMap.not_mem_empty
      declared := fun _ hs => Std.ExtTreeSet.mem_toList.mp hs
      started := fun _ hs => .inl (Std.ExtTreeSet.mem_toList.mpr hs) }
  layered := .nil

/-- A run keeps the invariant, and with enough steps it comes to its end. -/
theorem run_spec (hw : g.WellFormed) (steps : Nat) (h : Invariant g c)
    (hsteps : measure g c ≤ steps) :
    Invariant g (run g steps c) ∧ (run g steps c).step g = none := by
  induction steps generalizing c with
  | zero =>
    refine ⟨h, ?_⟩
    rw [run]
    cases hs : c.step g with
    | none => rfl
    | some c' =>
      have := measure_step hw h hs
      omega
  | succ steps ih =>
    rw [run]
    cases hs : c.step g with
    | none => exact ⟨h, hs⟩
    | some c' =>
      have := measure_step hw h hs
      exact ih (h.step hs) (by omega)

theorem pass_spec (hw : g.WellFormed) : Invariant g (pass g) ∧ (pass g).step g = none := by
  refine run_spec hw _ (invariant_start g) (Nat.le_of_eq ?_)
  have hmet : (start g).index.contains = fun _ => false :=
    funext fun _ => Std.ExtTreeMap.contains_empty
  have hstarts : (start g).starts.length = g.nodes.size := Std.ExtTreeSet.length_toList
  rw [measure, hmet, pending_none, hstarts]
  rfl

/-- A pass at its end has nothing on its stack and nothing to start from. -/
theorem Invariant.done (h : Invariant g c) (hs : c.step g = none) :
    c.stack = [] ∧ ∀ s, g.isDeclared s = true → s ∈ c.index := by
  obtain ⟨core, layered⟩ := h
  rw [Components.step] at hs
  split at hs
  · cases hs
  · cases hs
  · rename_i hframes
    split at hs
    · rename_i hstarts
      refine ⟨Layered.stack_nil (hframes ▸ layered), fun s hd => ?_⟩
      exact (core.started s hd).resolve_left (by simp [hstarts])
    · cases hs

end Components

/-- The collected names are the ones on a cycle that a declared name leads to. -/
theorem WellFormed.mem_cyclicReferences {g : Graph} (h : g.WellFormed) {x : String} :
    x ∈ g.cyclicReferences ↔ (∃ s, g.isDeclared s = true ∧ g.Leads s x) ∧ g.OnCycle x := by
  obtain ⟨inv, hend⟩ := Components.pass_spec h
  obtain ⟨hstack, hstarts⟩ := inv.done hend
  have hclosed : ∀ y, (Components.pass g).Closed y ↔ y ∈ (Components.pass g).index := by
    intro y
    rw [Components.Closed, hstack]
    simp
  rw [cyclicReferences, inv.core.cyclic_iff, hclosed]
  refine and_congr_left fun _ => ⟨inv.core.rooted x, ?_⟩
  rintro ⟨s, hs, hlead⟩
  exact (hclosed x).mp (inv.core.closed_of_leads ((hclosed s).mpr (hstarts s hs)) hlead)

/-- Where only declared names read others, every name on a cycle is collected. -/
theorem WellFormed.mem_cyclicReferences_iff_onCycle {g : Graph} (h : g.WellFormed)
    (hdeclared : ∀ a b, g.Reads a b → g.isDeclared a = true) {x : String} :
    x ∈ g.cyclicReferences ↔ g.OnCycle x := by
  rw [h.mem_cyclicReferences]
  refine and_iff_right_of_imp fun hx => ?_
  obtain ⟨b, hread, -⟩ := Relation.TransGen.head'_iff.mp hx
  exact ⟨x, hdeclared x b hread, .refl⟩

/-- For every graph that the operations build, the pass comes to its end and collects
exactly the names on a cycle that a declared name leads to. A name that is not on a
cycle itself is not collected because it reads such a name or is read by one. -/
theorem cyclicReferences_build (ops : List Operation) :
    (Components.pass (build ops)).step (build ops) = none ∧
    (∀ n, n ∈ (build ops).cyclicReferences ↔
      (∃ s, (build ops).isDeclared s = true ∧ (build ops).Leads s n) ∧ (build ops).OnCycle n) ∧
    ∀ n m, (build ops).OnCycle m → (build ops).Reads n m ∨ (build ops).Reads m n →
      ¬ (build ops).OnCycle n → n ∉ (build ops).cyclicReferences := by
  have hw := wellFormed_build ops
  refine ⟨(Components.pass_spec hw).2, fun n => hw.mem_cyclicReferences, ?_⟩
  intro n m _ _ hn hmem
  exact hn (hw.mem_cyclicReferences.mp hmem).2

/-- Neither `c`, which a cycle reads, nor `d`, which reads the cycle, is collected. -/
example : (build [.declare "a", .addEdge "a" "b", .addEdge "b" "a", .addEdge "b" "c",
    .addEdge "d" "a"]).cyclicReferences.toList = ["a", "b"] := by decide +kernel

end Worksheet.Graph
