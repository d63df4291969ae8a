import Worksheet.Proofs.Graph.Canonical
import Worksheet.Proofs.Sheet.Incremental

/- Worksheet Pass Statistics — the counts of a pass are those of its result.

   A visit counts its name once if that is a formula, and once more if its entry becomes
   an error. A pass visits no name twice and no later visit touches an entry that was
   counted, so what has been counted can be read off the context that the pass leaves
   (`Sheet.stats_run`). A name on a cycle reads something, so it is a formula that can be
   read; and every formula is on a cycle or in the order, so a full pass counts each. -/
namespace Worksheet

/-- What a test picks out of a list without repetition is as many things as it counts. -/
theorem ncard_eq_countP {l : List String} {test : String → Bool} {p : String → Prop}
    (hl : l.Nodup) (hmem : ∀ x, p x ↔ x ∈ l ∧ test x = true) :
    {x | p x}.ncard = l.countP test := by
  rw [List.countP_eq_length_filter]
  exact ncard_eq_length (hl.filter _) fun x => List.mem_filter.trans (hmem x).symm

namespace Field

/-- A name is bound to a formula, which may be one that cannot be read. -/
def IsFormula (fs : List Field) (name : String) : Prop :=
  ∃ b ∈ bindings fs, b.name = name ∧ b.field.isFormula = true

/-- A name is bound to a formula that cannot be read. -/
def Unreadable (fs : List Field) (name : String) : Prop :=
  ∃ b ∈ bindings fs, b.name = name ∧ ∃ error, b.cell = .unparsed error

/-- A field that is no formula is a cell with a value. -/
theorem isFormula_eq_false_iff {f : Field} : f.isFormula = false ↔ ∃ v, f.cell = .value v := by
  rcases f with ⟨info, content⟩ | ⟨info, children⟩
  · cases content with
    | formula text =>
      refine iff_of_false (by simp [isFormula, expression?]) ?_
      rintro ⟨v, hv⟩
      rw [cell] at hv
      split at hv <;> cases hv
    | _ => exact iff_of_true rfl ⟨_, rfl⟩
  · exact iff_of_true rfl ⟨_, rfl⟩

end Field

/-- The counts with some more formulas, some of them errors. -/
def Stats.add (t : Stats) (calculated errors : Nat) : Stats :=
  { t with calculated := t.calculated + calculated, errors := t.errors + errors }

theorem Stats.add_add (t : Stats) (a b a' b' : Nat) :
    (t.add a b).add a' b' = t.add (a + a') (b + b') := by
  simp only [add, Nat.add_assoc]

namespace Sheet

/-- Whether a name is a formula whose entry is an error. -/
def failed (s : Sheet) (c : Context) (name : String) : Bool :=
  s.isFormula name && (c.error? name).isSome

variable {s : Sheet} {functions : Library}

theorem isFormula_iff {name : String} :
    s.isFormula name = true ↔
      (∃ e, s.cell? name = some (.formula e)) ∨ ∃ error, s.cell? name = some (.unparsed error) := by
  rw [isFormula]
  rcases s.cell? name with _ | (_ | _ | _) <;> simp

/-- A name on a cycle reads a name, so it is a formula. -/
theorem Prepared.isFormula_of_mem_cyclic (h : s.Prepared) {name : String} (hname : name ∈ s.cyclic) :
    s.isFormula name = true := by
  obtain ⟨n, hread, -⟩ := Relation.TransGen.head'_iff.mp ((h.plan.mem_cyclic name).mp hname)
  obtain ⟨e, hcell, -⟩ := (h.reads_iff name n).mp hread
  exact isFormula_iff.mpr (.inl ⟨e, hcell⟩)

theorem stats_record (c : Calculation) (name : String) (e : Entry) :
    (c.record name e).stats =
      c.stats.add 1 ((c.record name e).context.error? name).isSome.toNat := by
  have hget : (c.record name e).context.get? name = some e :=
    (Context.get?_insert ..).trans (if_pos rfl)
  rw [Context.error?, hget]
  cases e <;> rfl

/-- A visit counts its name if that is a formula, and its entry if that becomes an error. -/
theorem stats_visit (h : s.Prepared) (c : Calculation) (name : String) :
    (s.visit functions c name).stats =
      c.stats.add (s.isFormula name).toNat
        (s.failed (s.visit functions c name).context name).toNat := by
  by_cases hcyclic : s.cyclic.contains name = true
  · have hformula := h.isFormula_of_mem_cyclic (Std.ExtTreeSet.contains_iff_mem.mp hcyclic)
    rw [visit, if_pos hcyclic, failed, hformula]
    exact stats_record ..
  · rw [visit, if_neg hcyclic, failed]
    cases hformula : s.isFormula name with
    | true =>
      rcases isFormula_iff.mp hformula with ⟨e, hcell⟩ | ⟨error, hcell⟩
      all_goals
        rw [hcell]
        exact stats_record ..
    | false =>
      rw [isFormula] at hformula
      rcases hcell : s.cell? name with _ | (_ | _ | default)
      · rfl
      · simp [hcell] at hformula
      · simp [hcell] at hformula
      · show (if c.context.contains name then c else _).stats = c.stats
        split <;> rfl

/-- What a pass over names in sequence has counted: the formulas among them, and those whose
entry is an error in the end. -/
theorem stats_run (h : s.Prepared) {names : List String}
    (hseq : s.graph.Sequenced s.cyclic names) (c : Calculation) :
    (names.foldl (s.visit functions) c).stats =
      c.stats.add (names.countP s.isFormula)
        (names.countP (s.failed (names.foldl (s.visit functions) c).context)) := by
  induction hseq generalizing c with
  | nil => rfl
  | @cons name names fresh reads rest ih =>
    -- no later visit touches the entry that this one has counted
    have hkept : s.failed (names.foldl (s.visit functions) (s.visit functions c name)).context name =
        s.failed (s.visit functions c name).context name := by
      rw [failed, failed, Context.error?, Context.error?, get?_run h functions rest, if_neg fresh]
    rw [List.foldl_cons, ih, stats_visit h, Stats.add_add, List.countP_cons, List.countP_cons, hkept]
    congr 1
    · rw [Nat.add_comm]
      cases s.isFormula name <;> rfl
    · rw [Nat.add_comm]
      cases s.failed (s.visit functions c name).context name <;> rfl

/-! ## Templates -/

section

variable {fs : List Field} {maxDepth : Nat}

theorem isFormula_ofFields {name : String} :
    ((ofFields fs).withMaxDepth maxDepth).isFormula name = true ↔ Field.IsFormula fs name := by
  show (ofFields fs).isFormula name = true ↔ _
  constructor
  · intro h
    rcases isFormula_iff.mp h with ⟨e, hcell⟩ | ⟨error, hcell⟩
    all_goals
      obtain ⟨b, hb, hname, hcell⟩ := cell?_ofFields.mp hcell
      refine ⟨b, hb, hname, ?_⟩
      by_contra hvalue
      obtain ⟨v, hv⟩ := Field.isFormula_eq_false_iff.mp (Bool.eq_false_iff.mpr hvalue)
      exact nomatch hcell.symm.trans hv
  · rintro ⟨b, hb, hname, hformula⟩
    refine isFormula_iff.mpr ?_
    cases hcell : b.cell with
    | formula e => exact .inl ⟨e, cell?_ofFields.mpr ⟨b, hb, hname, hcell⟩⟩
    | unparsed error => exact .inr ⟨error, cell?_ofFields.mpr ⟨b, hb, hname, hcell⟩⟩
    | value v =>
      have hnone := Field.isFormula_eq_false_iff.mpr ⟨v, hcell⟩
      exact absurd hformula (by simp [hnone])

theorem failed_ofFields {c : Context} {name : String} :
    ((ofFields fs).withMaxDepth maxDepth).failed c name = true ↔
      Field.IsFormula fs name ∧ ∃ err, c.get? name = some (.error err) := by
  rw [failed, Bool.and_eq_true, isFormula_ofFields, Context.error?]
  refine and_congr_right fun _ => ?_
  rcases c.get? name with _ | (_ | _) <;> simp

/-- Each formula that cannot be read is listed once with its error. -/
theorem nodup_parseErrors (s : Sheet) : (s.parseErrors.map Prod.fst).Nodup := by
  rw [List.nodup_iff_pairwise_ne, List.pairwise_map]
  refine List.Pairwise.filterMap _ ?_ Std.ExtTreeMap.distinct_keys_toList
  rintro ⟨a, ca⟩ ⟨b, cb⟩ hne x hx y hy heq
  cases ca <;> cases cb <;> cases hx <;> cases hy
  exact hne (Std.LawfulEqCmp.compare_eq_iff_eq.mpr heq)

theorem mem_parseErrors {s : Sheet} {name : String} :
    name ∈ s.parseErrors.map Prod.fst ↔ ∃ error, s.cell? name = some (.unparsed error) := by
  simp only [parseErrors, List.mem_map, List.mem_filterMap, Prod.exists, cell?,
    ← Std.ExtTreeMap.mem_toList_iff_getElem?_eq_some]
  constructor
  · rintro ⟨_, error, ⟨a, c, hmem, hsome⟩, rfl⟩
    cases c <;> cases hsome
    exact ⟨error, hmem⟩
  · rintro ⟨error, hmem⟩
    exact ⟨name, error, ⟨name, .unparsed error, hmem, rfl⟩, rfl⟩

/-- Before a pass the formulas, the names on a cycle and the formulas that cannot be read are
counted. -/
theorem baseStats_ofFields :
    ((ofFields fs).withMaxDepth maxDepth).baseStats =
      { formulas := {x | Field.IsFormula fs x}.ncard
        calculated := 0
        circular := {x | Field.OnCycle fs x}.ncard
        unparsed := {x | Field.Unreadable fs x}.ncard
        errors := 0 } := by
  have hkeys : ((ofFields fs).cells.keys).Nodup :=
    Std.ExtTreeMap.distinct_keys.imp fun h heq => h (Std.LawfulEqCmp.compare_eq_iff_eq.mpr heq)
  have hformulas : ∀ x, Field.IsFormula fs x ↔
      x ∈ (ofFields fs).cells.keys ∧ (ofFields fs).isFormula x = true := by
    intro x
    have hx : (ofFields fs).isFormula x = true ↔ Field.IsFormula fs x := isFormula_ofFields
    rw [hx]
    refine (and_iff_right_of_imp ?_).symm
    rintro ⟨b, hb, hname, -⟩
    have hcell : (ofFields fs).cells[x]? = some b.cell := cell?_ofFields.mpr ⟨b, hb, hname, rfl⟩
    rw [Std.ExtTreeMap.mem_keys, Std.ExtTreeMap.mem_iff_isSome_getElem?, hcell]
    rfl
  have hunparsed : ∀ x, x ∈ (ofFields fs).parseErrors.map Prod.fst ↔ Field.Unreadable fs x := by
    intro x
    simp only [mem_parseErrors, cell?_ofFields, Field.Unreadable]
    constructor
    · rintro ⟨error, b, hb, hname, hcell⟩
      exact ⟨b, hb, hname, error, hcell⟩
    · rintro ⟨b, hb, hname, error, hcell⟩
      exact ⟨error, b, hb, hname, hcell⟩
  have hcircular : ∀ x, x ∈ (ofFields fs).cyclic.toList ↔ Field.OnCycle fs x := fun x =>
    Std.ExtTreeSet.mem_toList.trans mem_cyclic_ofFields
  rw [ncard_eq_countP hkeys hformulas, ncard_eq_length (NameSet.nodup_toList _) hcircular,
    ncard_eq_length (nodup_parseErrors _) hunparsed, List.countP_eq_length_filter,
    Std.ExtTreeSet.length_toList, List.length_map]
  rfl

/-- What a pass over names in sequence counts. -/
theorem stats_run_ofFields {names : List String} (functions : Library) (c : Context)
    (hseq : (ofFields fs).graph.Sequenced (ofFields fs).cyclic names) :
    let r := ((ofFields fs).withMaxDepth maxDepth).run functions names c
    r.stats =
      { formulas := {x | Field.IsFormula fs x}.ncard
        calculated := {x | x ∈ names ∧ Field.IsFormula fs x}.ncard
        circular := {x | Field.OnCycle fs x}.ncard
        unparsed := {x | Field.Unreadable fs x}.ncard
        errors := {x | x ∈ names ∧ Field.IsFormula fs x ∧
          ∃ err, r.context.get? x = some (.error err)}.ncard } := by
  intro r
  have hrun : r.stats = ((ofFields fs).withMaxDepth maxDepth).baseStats.add
      (names.countP ((ofFields fs).withMaxDepth maxDepth).isFormula)
      (names.countP (((ofFields fs).withMaxDepth maxDepth).failed r.context)) :=
    stats_run (prepared_withMaxDepth fs maxDepth) hseq ⟨c, _⟩
  have hcalculated : {x | x ∈ names ∧ Field.IsFormula fs x}.ncard = _ :=
    ncard_eq_countP hseq.nodup fun _ => and_congr_right fun _ =>
      (isFormula_ofFields : ((ofFields fs).withMaxDepth maxDepth).isFormula _ = true ↔ _).symm
  have herrors : {x | x ∈ names ∧ Field.IsFormula fs x ∧
      ∃ err, r.context.get? x = some (.error err)}.ncard = _ :=
    ncard_eq_countP hseq.nodup fun _ => and_congr_right fun _ =>
      (failed_ofFields : ((ofFields fs).withMaxDepth maxDepth).failed _ _ = true ↔ _).symm
  rw [hcalculated, herrors, hrun, baseStats_ofFields, Stats.add, Nat.zero_add, Nat.zero_add]

end

/-- For every template, nesting limit, library, seed, changed name and context. A full pass
counts the bound formulas, all of which it has calculated, the names on a cycle, the
formulas that cannot be read, which are those that the sheet lists, and the formulas whose
entry it leaves as an error. An incremental pass on any context counts the same formulas,
cycles and unreadable formulas, and of the formulas that the change affects how many there
are and how many it leaves as errors. -/
theorem stats_passes (fs : List Field) (maxDepth : Nat) (functions : Library) (seed : Context)
    (changed : String) (c : Context) :
    let s := (ofFields fs).withMaxDepth maxDepth
    let full := s.evaluateWith functions seed
    let part := s.recalculateWith functions changed c
    full.stats =
      { formulas := {x | Field.IsFormula fs x}.ncard
        calculated := {x | Field.IsFormula fs x}.ncard
        circular := {x | Field.OnCycle fs x}.ncard
        unparsed := {x | Field.Unreadable fs x}.ncard
        errors := {x | Field.IsFormula fs x ∧
          ∃ err, full.context.get? x = some (.error err)}.ncard } ∧
    s.parseErrors.length = {x | Field.Unreadable fs x}.ncard ∧
    part.stats =
      { formulas := full.stats.formulas
        calculated := {x | x ∈ s.affected changed ∧ Field.IsFormula fs x}.ncard
        circular := full.stats.circular
        unparsed := full.stats.unparsed
        errors := {x | x ∈ s.affected changed ∧ Field.IsFormula fs x ∧
          ∃ err, part.context.get? x = some (.error err)}.ncard } := by
  intro s full part
  have h : s.Prepared := prepared_withMaxDepth fs maxDepth
  have hvisited : ∀ x, Field.IsFormula fs x → x ∈ s.cyclic.toList ++ s.order := by
    rintro x ⟨b, hb, hname, -⟩
    exact h.plan.covers x (isDeclared_graph.mpr ⟨b, hb, hname⟩)
  have hfull : full.stats = _ := stats_run_ofFields functions seed h.plan.sequenced
  have hpart : part.stats = _ := stats_run_ofFields functions c (sequenced_affected h changed)
  -- a full pass visits every formula
  simp only [← and_assoc, and_iff_right_of_imp (hvisited _)] at hfull
  refine ⟨hfull, congrArg Stats.unparsed baseStats_ofFields, ?_⟩
  rw [hfull]
  exact hpart

/-- `a` cannot be read and `b` reads it, `x` and `y` are on a cycle, and `c` is a value. -/
example : ((ofFields [.ofFormula "a" "=", .ofFormula "b" "=a", .ofFormula "c" "=TRUE",
    .ofFormula "x" "=y", .ofFormula "y" "=x"]).evaluate ∅).stats = ⟨5, 5, 2, 1, 4⟩ := by
  decide +kernel

end Sheet

end Worksheet
