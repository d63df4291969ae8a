import Worksheet.Proofs.Context.Values
import Worksheet.Proofs.Formula.Errors
import Worksheet.Proofs.Sheet.Order

/- Worksheet Errors of Sheets — errors neither vanish nor appear from nowhere.

   After a full pass a formula that is on no cycle has the entry that it denotes in the
   context that the pass has left. So what holds of one expression holds of the sheet: a
   value is there only if all that is read has values, directly or through other formulas
   (`Field.Solution.not_value_of_spoiled`); `#CYCLE!` and `#REF!` are passed on, and never
   made, by what reads them. Where every name that is read is bound and nothing is on a
   cycle, there is nothing that they could come from (`Field.Sealed.not_error`). -/
namespace Worksheet

namespace Environment

variable {env : Environment} {n : String}

theorem resolve_eq_ok {v : Value} : env.resolve n = .ok v ↔ env.values.get? n = some (.ok v) := by
  rw [resolve]
  cases env.values.get? n <;> simp

theorem resolve_eq_cycle :
    env.resolve n = .error .cycle ↔ env.values.get? n = some (.error .cycle) := by
  rw [resolve]
  cases env.values.get? n <;> simp

theorem resolve_eq_unresolved :
    env.resolve n = .error .unresolved ↔
      env.values.get? n = some (.error .unresolved) ∨ env.values.get? n = none := by
  rw [resolve]
  cases env.values.get? n <;> simp

end Environment

namespace Field

/-- A name has no value to be read: it is on a cycle, it is bound to a formula that cannot be
read, its entry is an error, or it has none. -/
def Spoiled (fs : List Field) (c : Context) (name : String) : Prop :=
  OnCycle fs name ∨ (∃ b ∈ bindings fs, b.name = name ∧ ∃ error, b.cell = .unparsed error) ∨
    (∃ err, c.get? name = some (.error err)) ∨ c.get? name = none

variable {fs : List Field} {functions : Library} {maxDepth : Nat} {seed c : Context}

/-- What is spoiled shows no value after a full pass. -/
theorem Solution.not_value_of_spoiled (h : Solution fs functions maxDepth seed c) {name : String}
    (hname : Spoiled fs c name) (v : Value) : c.get? name ≠ some (.ok v) := by
  intro hv
  rcases hname with hcycle | ⟨b, hb, rfl, error, hcell⟩ | ⟨err, herr⟩ | hnone
  · obtain ⟨b, hb, rfl⟩ := hcycle.bound
    exact nomatch (h.cycle b hb hcycle).symm.trans hv
  · exact nomatch (h.unparsed b hb error hcell).symm.trans hv
  · exact nomatch herr.symm.trans hv
  · exact nomatch hnone.symm.trans hv

/-- What a name with a value reads has a value. -/
theorem Solution.value_of_reads (h : Solution fs functions maxDepth seed c) {r n : String}
    (hread : Reads fs r n) {v : Value} (hv : c.get? r = some (.ok v)) :
    ∃ w, c.get? n = some (.ok w) := by
  obtain ⟨b, hb, rfl, e, hcell, hn⟩ := hread
  by_cases hcycle : OnCycle fs b.name
  · exact absurd hv (h.not_value_of_spoiled (.inl hcycle) v)
  · have heval := Option.some.inj ((h.formula b hb hcycle e hcell).symm.trans hv)
    obtain ⟨w, hw⟩ := Expr.eval_strict heval hn
    exact ⟨w, Environment.resolve_eq_ok.mp hw⟩

/-- So does what it reads through other names. -/
theorem Solution.value_of_leads (h : Solution fs functions maxDepth seed c) {r n : String}
    (hpath : Relation.TransGen (Reads fs) r n) {v : Value} (hv : c.get? r = some (.ok v)) :
    ∃ w, c.get? n = some (.ok w) := by
  induction hpath with
  | single hread => exact h.value_of_reads hread hv
  | tail _ hread ih =>
    obtain ⟨w, hw⟩ := ih
    exact h.value_of_reads hread hw

/-- An error that is not local is at a name only because it is read there. -/
theorem Solution.error_read (h : Solution fs .builtin maxDepth seed c) {b : Binding}
    (hb : b ∈ bindings fs) (hcycle : ¬ OnCycle fs b.name) {e : Expr} (hcell : b.cell = .formula e)
    {err : CellError} (herr : c.get? b.name = some (.error err)) (hlocal : ¬ err.IsLocal) :
    ∃ n ∈ e.references, Environment.resolve ⟨c, .builtin, maxDepth⟩ n = .error err := by
  have heval := Option.some.inj ((h.formula b hb hcycle e hcell).symm.trans herr)
  exact Expr.eval_traced heval Library.local_builtin hlocal

/-- After a full pass there is an entry at every bound name. -/
theorem Solution.entry_of_bound (h : Solution fs functions maxDepth seed c) {name : String}
    (hname : Bound fs name) : ∃ e, c.get? name = some e := by
  obtain ⟨b, hb, rfl⟩ := hname
  by_cases hcycle : OnCycle fs b.name
  · exact ⟨_, h.cycle b hb hcycle⟩
  · cases hcell : b.cell with
    | formula e => exact ⟨_, h.formula b hb hcycle e hcell⟩
    | unparsed error => exact ⟨_, h.unparsed b hb error hcell⟩
    | value default => exact ⟨_, h.value b hb default hcell⟩

/-! ## Sealed templates -/

/-- Every name that is read is bound, and no name is on a cycle. -/
structure Sealed (fs : List Field) : Prop where
  bound : ∀ r n, Reads fs r n → Bound fs n
  acyclic : ∀ n, ¬ OnCycle fs n

/-- A formula of a sealed template reads names that come before its own. -/
theorem Sealed.idxOf_lt (hs : Sealed fs) {r n : String} (hread : Reads fs r n) :
    (Sheet.ofFields fs).order.idxOf n < (Sheet.ofFields fs).order.idxOf r := by
  have hin : ∀ x, Bound fs x → x ∈ (Sheet.ofFields fs).order := fun x hx =>
    Sheet.mem_order_ofFields.mpr ⟨hs.acyclic x, .inl hx⟩
  have hreader : Bound fs r := by
    obtain ⟨b, hb, hname, -⟩ := hread
    exact ⟨b, hb, hname⟩
  exact Sheet.idxOf_order_lt hread (hin r hreader) (hin n (hs.bound r n hread))

/-- From a seed without errors, a sealed template gets local errors only. -/
theorem Sealed.not_error (hs : Sealed fs) (h : Solution fs .builtin maxDepth seed c)
    (hseed : seed.ErrorFree) {err : CellError} (hlocal : ¬ err.IsLocal) (name : String) :
    c.get? name ≠ some (.error err) := by
  -- the induction is along the order: an error at a name would have been read at one before it
  induction hposition : (Sheet.ofFields fs).order.idxOf name using Nat.strongRecOn
    generalizing name with
  | _ position ih =>
    intro herr
    by_cases hname : Bound fs name
    · obtain ⟨b, hb, rfl⟩ := hname
      cases hcell : b.cell with
      | formula e =>
        obtain ⟨n, hn, hresolve⟩ := h.error_read hb (hs.acyclic _) hcell herr hlocal
        have hread : Reads fs b.name n := ⟨b, hb, rfl, e, hcell, hn⟩
        obtain ⟨entry, hentry⟩ := h.entry_of_bound (hs.bound _ _ hread)
        rw [Environment.resolve, hentry, Option.getD_some] at hresolve
        exact ih _ (hposition ▸ hs.idxOf_lt hread) n rfl (hresolve ▸ hentry)
      | unparsed error =>
        have hgeneric := Option.some.inj ((h.unparsed b hb error hcell).symm.trans herr)
        exact hlocal (Except.error.inj hgeneric ▸ CellError.isLocal_generic)
      | value default =>
        have hvalue := Option.some.inj ((h.value b hb default hcell).symm.trans herr)
        cases hown : seed.get? b.name with
        | none => simp [hown] at hvalue
        | some entry =>
          rw [hown, Option.getD_some] at hvalue
          exact hseed b.name err (hvalue ▸ hown)
    · exact hseed name err ((h.other name hname).symm.trans herr)

end Field

namespace Sheet

/-- After a full pass with the built-in functions, for every template, nesting limit and
seed: of a formula that is on no cycle, a value shows that all it reads has values, and
`#CYCLE!` or `#REF!` that something it reads is on a cycle or is missing. What reads a
spoiled name, directly or through others, shows no value. -/
theorem evaluate_errors (fs : List Field) (maxDepth : Nat) (seed : Context) :
    let c := (((ofFields fs).withMaxDepth maxDepth).evaluate seed).context
    (∀ b ∈ Field.bindings fs, ¬ Field.OnCycle fs b.name → ∀ e, b.cell = .formula e →
      (∀ v, c.get? b.name = some (.ok v) →
        ∀ n ∈ e.references, ∃ w, c.get? n = some (.ok w)) ∧
      (c.get? b.name = some (.error .cycle) →
        ∃ n ∈ e.references, c.get? n = some (.error .cycle)) ∧
      (c.get? b.name = some (.error .unresolved) →
        ∃ n ∈ e.references, c.get? n = some (.error .unresolved) ∨ c.get? n = none)) ∧
    ∀ r n, Relation.TransGen (Field.Reads fs) r n → Field.Spoiled fs c n →
      ∀ v, c.get? r ≠ some (.ok v) := by
  intro c
  have h : Field.Solution fs .builtin maxDepth seed c :=
    solves_iff_solution.mp (solves_evaluateWith (prepared_withMaxDepth fs maxDepth) .builtin seed)
  clear_value c
  refine ⟨fun b hb hcycle e hcell => ⟨?_, ?_, ?_⟩, ?_⟩
  · intro v hv n hn
    exact h.value_of_reads ⟨b, hb, rfl, e, hcell, hn⟩ hv
  · intro herr
    obtain ⟨n, hn, hread⟩ := h.error_read hb hcycle hcell herr fun hl => hl.2 rfl
    exact ⟨n, hn, Environment.resolve_eq_cycle.mp hread⟩
  · intro herr
    obtain ⟨n, hn, hread⟩ := h.error_read hb hcycle hcell herr fun hl => hl.1 rfl
    exact ⟨n, hn, Environment.resolve_eq_unresolved.mp hread⟩
  · intro r n hpath hspoiled v hv
    obtain ⟨w, hw⟩ := h.value_of_leads hpath hv
    exact h.not_value_of_spoiled hspoiled w hw

end Sheet

end Worksheet
