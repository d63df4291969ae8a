import Mathlib.Logic.Relation
import Worksheet.Graph.DepthFirst
import Worksheet.Proofs.Graph.Reach

/- Worksheet Depth First Theory — the steps of a search do what its rules say.

   The rules of a search (`Seeks`) speak of the names that are looked at in turn below a path:
   what a name leads to is searched before the names after it. The steps do the same with
   frames and colours. The path and the names that are done with can be told from the colours
   (`DepthFirst.At`), and where the rules look at some names, the steps come to the same cycle,
   or they come back to where they were with more names black (`DepthFirst.reaches_of_seeks`).

   Distinct names of a graph make a path, so the rules cannot go deeper than there are names
   (`exists_seeks`). Each step takes one off a bound (`DepthFirst.measure_step`), so a pass
   comes to its end, and this is the end that the rules lead to (`DepthFirst.seeks_pass`). -/
namespace Worksheet.Graph

/-! ## The rules -/

/-- What a search finds: a cycle, or the names that are done with, last first. -/
abbrev Found := Except (List String) (List String)

/-- A search from some names in turn below a path comes to its end, where the names in `done`
need no more looking at. Nothing bounds how deep it may go. -/
inductive Seeks (next : String → NameSet) :
    List String → List String → List String → Found → Prop
  | nil {path done : List String} : Seeks next path done [] (.ok done)
  | met {path done names : List String} {name : String} {found : Found} (hmet : name ∈ done)
      (rest : Seeks next path done names found) : Seeks next path done (name :: names) found
  /-- A name of the path closes a cycle. -/
  | back {path done names : List String} {name : String} (hfresh : name ∉ done)
      (hback : name ∈ path) :
      Seeks next path done (name :: names) (.error (name :: (path.takeWhile (· != name)).reverse))
  /-- The neighbours of a name are searched with the name on the path. -/
  | fail {path done names cycle : List String} {name : String} (hfresh : name ∉ done)
      (hnew : name ∉ path)
      (neighbours : Seeks next (name :: path) done (next name).toList (.error cycle)) :
      Seeks next path done (name :: names) (.error cycle)
  | visit {path done done' names : List String} {name : String} {found : Found}
      (hfresh : name ∉ done) (hnew : name ∉ path)
      (neighbours : Seeks next (name :: path) done (next name).toList (.ok done'))
      (rest : Seeks next path (name :: done') names found) :
      Seeks next path done (name :: names) found

variable {g : Graph} {next : String → NameSet}

/-- Below a path of distinct names of a graph the rules lead to an end: with each name that
comes onto the path one name of the graph fewer is left. -/
theorem exists_seeks (hnext : ∀ a b, b ∈ next a → b ∈ g.everyName) {depth : Nat}
    {path names : List String} (hnodup : path.Nodup) (hpath : ∀ p ∈ path, p ∈ g.everyName)
    (hnames : ∀ n ∈ names, n ∈ g.everyName) (hroom : g.everyName.size < path.length + depth)
    (done : List String) : ∃ found, Seeks next path done names found := by
  induction depth generalizing path names done with
  | zero =>
    have hle : path.length ≤ g.everyName.toList.length :=
      hnodup.length_le_of_subset fun p hp => Std.ExtTreeSet.mem_toList.mpr (hpath p hp)
    rw [Std.ExtTreeSet.length_toList] at hle
    omega
  | succ depth ihdepth =>
    induction names generalizing done with
    | nil => exact ⟨_, .nil⟩
    | cons name names ih =>
      obtain ⟨hname, hnames⟩ := List.forall_mem_cons.mp hnames
      by_cases hmet : name ∈ done
      · obtain ⟨found, hrest⟩ := ih hnames done
        exact ⟨found, .met hmet hrest⟩
      by_cases hback : name ∈ path
      · exact ⟨_, .back hmet hback⟩
      have hneighbours : ∀ n ∈ (next name).toList, n ∈ g.everyName := fun n hn =>
        hnext name n (Std.ExtTreeSet.mem_toList.mp hn)
      obtain ⟨below, hbelow⟩ := ihdepth (List.nodup_cons.mpr ⟨hback, hnodup⟩)
        (List.forall_mem_cons.mpr ⟨hname, hpath⟩) hneighbours
        (by rw [List.length_cons]; omega) done
      cases below with
      | error cycle => exact ⟨_, .fail hmet hback hbelow⟩
      | ok done' =>
        obtain ⟨found, hrest⟩ := ih hnames (name :: done')
        exact ⟨found, .visit hmet hback hbelow hrest⟩

theorem takeWhile_bne {name : String} {after before : List String} (h : name ∉ after) :
    (after ++ name :: before).takeWhile (· != name) = after := by
  rw [List.takeWhile_append_of_pos, List.takeWhile_cons_of_neg (by simp), List.append_nil]
  exact fun a ha => bne_iff_ne.mpr fun heq => h (heq ▸ ha)

namespace DepthFirst

/-! ## The steps -/

variable {s s' : DepthFirst} {path done names : List String} {name : String}
  {colours : Std.ExtTreeMap String Colour}

/-- A search gets to another in any number of steps. -/
abbrev Leads (next : String → NameSet) : DepthFirst → DepthFirst → Prop :=
  Relation.ReflTransGen fun s s' => s.step next = .ok (some s')

/-- The search with `names` to look at next: for the last name of the path, or to start from
where the path is empty. -/
def await (s : DepthFirst) (names : List String) : DepthFirst :=
  match s.frames with
  | [] => { s with starts := names }
  | frame :: outer => { s with frames := ⟨frame.name, names⟩ :: outer }

/-- The search with other colours. -/
def settle (s : DepthFirst) (colours : Std.ExtTreeMap String Colour) (done : List String) :
    DepthFirst :=
  { s with colours := colours, finished := done }

@[simp] theorem stack_await : (s.await names).stack = s.stack := by
  rw [await]; split <;> rfl

@[simp] theorem colours_await : (s.await names).colours = s.colours := by
  rw [await]; split <;> rfl

@[simp] theorem finished_await : (s.await names).finished = s.finished := by
  rw [await]; split <;> rfl

@[simp] theorem map_name_await :
    (s.await names).frames.map (·.name) = s.frames.map (·.name) := by
  rw [await]; split <;> simp_all

theorem step_of_new (h : s.colours[name]? = none) :
    (s.await (name :: names)).step next = .ok (some ((s.await names).enter next name)) := by
  have hnew : s.colours.contains name = false := by
    rw [Std.ExtTreeMap.contains_eq_isSome_getElem?, h]
    rfl
  rcases s with ⟨starts, _ | ⟨frame, outer⟩, colours, stack, finished⟩
  · simp only [await, step, hnew, Bool.false_eq_true, if_false]
  · simp [await, step, look, h, Except.map]

theorem step_of_black (h : s.colours[name]? = some .black) :
    (s.await (name :: names)).step next = .ok (some (s.await names)) := by
  have hmet : s.colours.contains name = true := by
    rw [Std.ExtTreeMap.contains_eq_isSome_getElem?, h]
    rfl
  rcases s with ⟨starts, _ | ⟨frame, outer⟩, colours, stack, finished⟩
  · simp only [await, step, hmet, if_true]
  · simp [await, step, look, h, Except.map]

theorem step_of_gray (hframes : s.frames ≠ []) (h : s.colours[name]? = some .gray) :
    (s.await (name :: names)).step next = .error (s.stack.reverse.dropWhile (· != name)) := by
  rcases s with ⟨starts, _ | ⟨frame, outer⟩, colours, stack, finished⟩
  · exact absurd rfl hframes
  · simp [await, step, look, h, Except.map]

/-- When all neighbours of a name have been looked at, the path before it comes back. -/
theorem step_of_done :
    ((((s.await names).enter next name).settle colours done).await []).step next =
      .ok (some ((s.settle (colours.insert name .black) (name :: done)).await names)) := by
  rcases s with ⟨starts, _ | ⟨frame, outer⟩, _, stack, _⟩ <;> rfl

/-! ## Where a search is -/

/-- The names of the path are gray and are the stack, and the black names are those that
are done with. -/
structure At (s : DepthFirst) (path done : List String) : Prop where
  names : s.frames.map (·.name) = path
  stack : s.stack = path
  finished : s.finished = done
  gray : ∀ x, s.colours[x]? = some .gray ↔ x ∈ path
  black : ∀ x, s.colours[x]? = some .black ↔ x ∈ done
  nodup : path.Nodup

namespace At

theorem start (starts : List String) : (start starts).At [] [] where
  names := rfl
  stack := rfl
  finished := rfl
  gray x := by simp [DepthFirst.start]
  black x := by simp [DepthFirst.start]
  nodup := .nil

theorem getElem?_eq_none (h : s.At path done) (hpath : name ∉ path) (hdone : name ∉ done) :
    s.colours[name]? = none := by
  cases hcolour : s.colours[name]? with
  | none => rfl
  | some colour =>
    cases colour with
    | gray => exact absurd ((h.gray name).mp hcolour) hpath
    | black => exact absurd ((h.black name).mp hcolour) hdone

/-- A name that is met comes onto the path. -/
theorem enter (h : s.At path done) (hpath : name ∉ path) (hdone : name ∉ done) :
    ((s.await names).enter next name).At (name :: path) done where
  names := by simp [DepthFirst.enter, h.names]
  stack := by simp [DepthFirst.enter, h.stack]
  finished := by simp [DepthFirst.enter, h.finished]
  gray x := by
    by_cases hx : name = x
    · simp [DepthFirst.enter, hx]
    · simp [DepthFirst.enter, Std.ExtTreeMap.getElem?_insert, hx, Ne.symm hx, h.gray]
  black x := by
    by_cases hx : name = x
    · simpa [DepthFirst.enter, hx] using hx ▸ hdone
    · simp [DepthFirst.enter, Std.ExtTreeMap.getElem?_insert, hx, h.black]
  nodup := List.nodup_cons.mpr ⟨hpath, h.nodup⟩

/-- A name whose neighbours have been looked at turns black and leaves the path. -/
theorem leave (h : (((s.await names).enter next name).settle colours done).At (name :: path) done) :
    (s.settle (colours.insert name .black) (name :: done)).At path (name :: done) := by
  obtain ⟨hpath, hnodup⟩ := List.nodup_cons.mp h.nodup
  refine ⟨?_, ?_, rfl, fun x => ?_, fun x => ?_, hnodup⟩
  · have hnames := h.names
    simp only [settle, DepthFirst.enter, List.map_cons, map_name_await] at hnames
    exact List.tail_eq_of_cons_eq hnames
  · have hstack := h.stack
    simp only [settle, DepthFirst.enter, stack_await] at hstack
    exact List.tail_eq_of_cons_eq hstack
  · have hgray : colours[x]? = some .gray ↔ x ∈ name :: path := h.gray x
    by_cases hx : name = x
    · simpa [settle, hx] using hx ▸ hpath
    · simp [settle, Std.ExtTreeMap.getElem?_insert, hx, Ne.symm hx, hgray]
  · have hblack : colours[x]? = some .black ↔ x ∈ done := h.black x
    by_cases hx : name = x
    · simp [settle, hx]
    · simp [settle, Std.ExtTreeMap.getElem?_insert, hx, Ne.symm hx, hblack]

/-- The stack from a gray name on is the cycle that the rules report. -/
theorem step_back (h : s.At path done) (hback : name ∈ path) :
    (s.await (name :: names)).step next =
      .error (name :: (path.takeWhile (· != name)).reverse) := by
  have hframes : s.frames ≠ [] := by
    intro hnil
    have hnames := h.names
    rw [hnil] at hnames
    exact nomatch hnames ▸ hback
  rw [step_of_gray hframes ((h.gray name).mpr hback), h.stack]
  obtain ⟨after, before, rfl, hafter⟩ := List.eq_append_cons_of_mem hback
  have hnodup : name ∉ before := (List.nodup_cons.mp (List.nodup_append.mp h.nodup).2.1).1
  have hdrop : (before.reverse ++ name :: after.reverse).dropWhile (· != name) =
      name :: after.reverse := by
    rw [List.dropWhile_append_of_pos, List.dropWhile_cons_of_neg (by simp)]
    exact fun x hx => bne_iff_ne.mpr fun heq => hnodup (heq ▸ List.mem_reverse.mp hx)
  rw [takeWhile_bne hafter, List.reverse_append, List.reverse_cons, List.append_assoc,
    List.singleton_append, hdrop]

end At

/-! ## The steps follow the rules -/

/-- What a search comes to that is at `s` below a path: a cycle, or `s` with more names
black and none left to look at. -/
def Reaches (next : String → NameSet) (current s : DepthFirst) (path : List String) : Found → Prop
  | .error cycle => ∃ last, Leads next current last ∧ last.step next = .error cycle
  | .ok done => ∃ colours, Leads next current ((s.settle colours done).await []) ∧
      (s.settle colours done).At path done

theorem Reaches.head {current current' : DepthFirst} {found : Found}
    (h : Reaches next current' s path found) (hleads : Leads next current current') :
    Reaches next current s path found := by
  cases found with
  | error cycle =>
    obtain ⟨last, hlast, hcycle⟩ := h
    exact ⟨last, hleads.trans hlast, hcycle⟩
  | ok done =>
    obtain ⟨colours, hlast, hat⟩ := h
    exact ⟨colours, hleads.trans hlast, hat⟩

/-- Where the search had come before does not matter for where it comes back to. -/
theorem Reaches.of_settle {current : DepthFirst} {found : Found}
    (h : Reaches next current (s.settle colours done) path found) :
    Reaches next current s path found := by
  cases found <;> exact h

/-- From where a search is, its steps come to what the rules lead to. -/
theorem reaches_of_seeks {found : Found} (h : Seeks next path done names found)
    (hs : s.At path done) :
    Reaches next (s.await names) s path found := by
  induction h generalizing s with
  | nil =>
    obtain rfl := hs.finished
    exact ⟨s.colours, .refl, hs⟩
  | met hmet _ ih => exact (ih hs).head (.single (step_of_black ((hs.black _).mpr hmet)))
  | back _ hback => exact ⟨_, .refl, hs.step_back hback⟩
  | @fail path done names _ name hfresh hnew _ ih =>
    have hinner : ((s.await names).enter next name).At (name :: path) done := hs.enter hnew hfresh
    obtain ⟨last, hlast, hcycle⟩ := ih hinner
    exact ⟨last, .head (step_of_new (hs.getElem?_eq_none hnew hfresh)) hlast, hcycle⟩
  | @visit path done _ names name _ hfresh hnew _ _ ihbelow ihrest =>
    have hinner : ((s.await names).enter next name).At (name :: path) done := hs.enter hnew hfresh
    obtain ⟨colours, hbelow, hat⟩ := ihbelow hinner
    refine (ihrest hat.leave).of_settle.head ?_
    -- the name is met, what is below it is searched, and the name turns black
    exact .head (step_of_new (hs.getElem?_eq_none hnew hfresh)) (hbelow.tail step_of_done)

/-! ## The whole search -/

/-- A search is at its end: it has found a cycle or has nothing left to look at. -/
def Ends (next : String → NameSet) (s : DepthFirst) : Prop :=
  ∀ s', s.step next ≠ .ok (some s')

theorem Ends.of_error {cycle : List String} (h : s.step next = .error cycle) : Ends next s := by
  intro s' hs'
  rw [h] at hs'
  cases hs'

theorem Ends.of_none (h : s.step next = .ok none) : Ends next s := by
  intro s' hs'
  rw [h] at hs'
  cases hs'

/-- The steps from one search lead to one end. -/
theorem Leads.unique {a b : DepthFirst} (ha : Leads next s a) (hb : Leads next s b)
    (hea : Ends next a) (heb : Ends next b) : a = b := by
  have hdet : Relator.RightUnique fun s s' : DepthFirst => s.step next = .ok (some s') := by
    intro s s₁ s₂ h₁ h₂
    exact Option.some.inj (Except.ok.inj (h₁.symm.trans h₂))
  rcases Relation.ReflTransGen.total_of_right_unique hdet ha hb with h | h
  · rcases h.cases_head with heq | ⟨s', hstep, -⟩
    · exact heq
    · exact absurd hstep (hea s')
  · rcases h.cases_head with heq | ⟨s', hstep, -⟩
    · exact heq.symm
    · exact absurd hstep (heb s')

/-- Every name that is still to be looked at is a name of the graph. -/
structure Known (g : Graph) (s : DepthFirst) : Prop where
  starts : ∀ n ∈ s.starts, n ∈ g.everyName
  rests : ∀ f ∈ s.frames, ∀ n ∈ f.rest, n ∈ g.everyName

/-- A bound of the steps that a search still takes. -/
def measure (g : Graph) (next : String → NameSet) (s : DepthFirst) : Nat :=
  s.starts.length + totalSteps (fun f => f.rest.length + 1) s.frames +
    g.pending next s.colours.contains

theorem Known.enter (hnext : ∀ a b, b ∈ next a → b ∈ g.everyName) (h : Known g s) :
    Known g (s.enter next name) where
  starts := h.starts
  rests := List.forall_mem_cons.mpr
    ⟨fun n hn => hnext name n (Std.ExtTreeSet.mem_toList.mp hn), h.rests⟩

/-- A name that is met adds to the path what it takes off the names not met. -/
theorem measure_enter (hname : name ∈ g.everyName) (hnew : name ∉ s.colours) :
    measure g next (s.enter next name) ≤ measure g next s := by
  have hdrop : g.pending next (s.enter next name).colours.contains + ((next name).size + 1) ≤
      g.pending next s.colours.contains := by
    refine pending_meet hname (Bool.eq_false_iff.mpr (mt Std.ExtTreeMap.contains_iff_mem.mp hnew)) ?_
    intro x
    rw [Bool.eq_iff_iff]
    simp [DepthFirst.enter, Std.ExtTreeMap.contains_insert]
  simp only [measure, DepthFirst.enter, totalSteps, Std.ExtTreeSet.length_toList] at hdrop ⊢
  omega

/-- A name that turns black takes nothing off but its frame. -/
theorem measure_leave {frame : Frame} {outer : List Frame} (hframes : s.frames = frame :: outer) :
    measure g next (s.leave name outer) + 1 ≤ measure g next s := by
  have hle : g.pending next (s.leave name outer).colours.contains ≤
      g.pending next s.colours.contains := by
    refine totalSteps_le fun x _ => ?_
    by_cases hx : s.colours.contains x = true
    · simp [leave, Std.ExtTreeMap.contains_insert, hx]
    · simp only [if_neg hx]
      split <;> omega
  simp only [measure, leave, hframes, totalSteps] at hle ⊢
  omega

theorem measure_look (hnext : ∀ a b, b ∈ next a → b ∈ g.everyName) (h : Known g s)
    (hname : name ∈ g.everyName) (hs : s.look next name = .ok s') :
    Known g s' ∧ measure g next s' ≤ measure g next s := by
  rw [look] at hs
  split at hs
  · rename_i hnone
    obtain rfl := Except.ok.inj hs
    have hnew : name ∉ s.colours := by
      rw [Std.ExtTreeMap.mem_iff_isSome_getElem?, hnone]
      exact Bool.false_ne_true
    exact ⟨h.enter hnext, measure_enter hname hnew⟩
  · cases hs
  · obtain rfl := Except.ok.inj hs
    exact ⟨h, Nat.le_refl _⟩

/-- Each step takes one off the bound, and it looks only at names of the graph. -/
theorem measure_step (hnext : ∀ a b, b ∈ next a → b ∈ g.everyName) (h : Known g s)
    (hs : s.step next = .ok (some s')) :
    Known g s' ∧ measure g next s' + 1 ≤ measure g next s := by
  rw [step] at hs
  split at hs
  · rename_i name neighbour rest path hframes
    obtain ⟨hrest, hpath⟩ := List.forall_mem_cons.mp (hframes ▸ h.rests)
    obtain ⟨hneighbour, hrest⟩ := List.forall_mem_cons.mp hrest
    -- the neighbour that is looked at leaves its frame
    have hless : measure g next { s with frames := ⟨name, rest⟩ :: path } + 1 ≤
        measure g next s := by
      simp only [measure, hframes, totalSteps, List.length_cons]
      omega
    cases hlook : ({ s with frames := ⟨name, rest⟩ :: path } : DepthFirst).look next neighbour with
    | error cycle =>
      rw [hlook] at hs
      cases hs
    | ok inner =>
      rw [hlook] at hs
      obtain rfl := Option.some.inj (Except.ok.inj hs)
      have hknown : Known g { s with frames := ⟨name, rest⟩ :: path } :=
        ⟨h.starts, List.forall_mem_cons.mpr ⟨hrest, hpath⟩⟩
      obtain ⟨hknown, hle⟩ := measure_look hnext hknown hneighbour hlook
      exact ⟨hknown, by omega⟩
  · rename_i name path hframes
    obtain rfl := Option.some.inj (Except.ok.inj hs)
    exact ⟨⟨h.starts, (List.forall_mem_cons.mp (hframes ▸ h.rests)).2⟩, measure_leave hframes⟩
  · split at hs
    · cases hs
    · rename_i name starts hstarts
      obtain rfl := Option.some.inj (Except.ok.inj hs)
      obtain ⟨hname, hstarts'⟩ := List.forall_mem_cons.mp (hstarts ▸ h.starts)
      have hknown : Known g { s with starts := starts } := ⟨hstarts', h.rests⟩
      have hless : measure g next { s with starts := starts } + 1 ≤ measure g next s := by
        simp only [measure, hstarts, List.length_cons]
        omega
      split
      · exact ⟨hknown, hless⟩
      · rename_i hmet
        have hle : measure g next (({ s with starts := starts } : DepthFirst).enter next name) ≤
            measure g next { s with starts := starts } :=
          measure_enter hname (mt Std.ExtTreeMap.contains_iff_mem.mpr hmet)
        exact ⟨hknown.enter hnext, by omega⟩

/-- With a bound of zero nothing is left to look at. -/
theorem step_of_measure (h : measure g next s = 0) : s.step next = .ok none := by
  rcases s with ⟨_ | ⟨name, starts⟩, _ | ⟨frame, path⟩, colours, stack, finished⟩
  · rfl
  all_goals
    simp only [measure, totalSteps, List.length_cons] at h
    omega

/-- With enough steps a run comes to the end of the search, and gives what stands there. -/
theorem run_spec (hnext : ∀ a b, b ∈ next a → b ∈ g.everyName) (steps : Nat) (h : Known g s)
    (hsteps : measure g next s ≤ steps) :
    ∃ last, Leads next s last ∧ Ends next last ∧
      run next steps s = (last.step next).map fun _ => last := by
  induction steps generalizing s with
  | zero =>
    have hs : s.step next = .ok none := step_of_measure (Nat.le_zero.mp hsteps)
    exact ⟨s, .refl, .of_none hs, by rw [hs]; rfl⟩
  | succ steps ih =>
    rw [run]
    cases hs : s.step next with
    | error cycle => exact ⟨s, .refl, .of_error hs, by rw [hs]; rfl⟩
    | ok next? =>
      cases next? with
      | none => exact ⟨s, .refl, .of_none hs, by rw [hs]; rfl⟩
      | some s' =>
        obtain ⟨hknown, hless⟩ := measure_step hnext h hs
        obtain ⟨last, hleads, hend⟩ := ih hknown (by omega)
        exact ⟨last, hleads.head hs, hend⟩

theorem measure_start (starts : List String) :
    measure g next (start starts) = starts.length + g.extent next := by
  have hmet : (start starts).colours.contains = fun _ => false :=
    funext fun _ => Std.ExtTreeMap.contains_empty
  rw [measure, hmet, pending_none]
  rfl

/-- A pass over names of a graph comes to its end, and the rules lead to the cycle that it
finds or to the names that are black at its end. -/
theorem seeks_pass (hnext : ∀ a b, b ∈ next a → b ∈ g.everyName) {starts : List String}
    (hstarts : ∀ n ∈ starts, n ∈ g.everyName) :
    Seeks next [] [] starts ((pass g next starts).map (·.finished)) := by
  have hroom : g.everyName.size < ([] : List String).length + (g.everyName.size + 1) := by
    rw [List.length_nil, Nat.zero_add]
    exact Nat.lt_succ_self _
  obtain ⟨found, hfound⟩ := exists_seeks hnext .nil (List.forall_mem_nil _) hstarts hroom []
  have hreaches : Reaches next (start starts) (start starts) [] found :=
    reaches_of_seeks hfound (.start starts)
  have hknown : Known g (start starts) := ⟨hstarts, List.forall_mem_nil _⟩
  obtain ⟨last, hlast, hends, hrun⟩ := run_spec hnext _ hknown (Nat.le_of_eq (measure_start starts))
  rw [pass, hrun]
  -- the pass and the rules stop at one search
  cases found with
  | error cycle =>
    obtain ⟨last', hlast', hcycle⟩ := hreaches
    obtain rfl := hlast.unique hlast' hends (.of_error hcycle)
    rw [hcycle]
    exact hfound
  | ok done =>
    obtain ⟨colours, hlast', -⟩ := hreaches
    obtain rfl := hlast.unique hlast' hends (.of_none rfl)
    exact hfound

end DepthFirst

end Worksheet.Graph
