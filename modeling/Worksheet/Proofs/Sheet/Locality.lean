import Worksheet.Proofs.Field.Listing
import Worksheet.Proofs.Sheet.Solution

/- Worksheet Locality of Sheets — an entry depends on what its name reads, and on nothing else.

   Two sheets may have different graphs, different names on cycles and different orders.
   If they have the same cells at some names that read no others (`Sheet.SameAmong`),
   they have the same edges there, so the same of these names are on a cycle, and the
   equation of each of these names asks for the same in both. A full pass of the second
   sheet settles these equations of the first, which have one solution among the names
   (`Sheet.agree_of_due`).

   The names that a name leads to read no others, so its entry is the same in any two
   templates that bind all of these names to the same (`Sheet.sameAmong_ofFields`). -/
namespace Worksheet

namespace Field

/-- Two templates bind a name to the same formula, as it is read, or to the same default
value, or neither binds it. The first field that has the name counts. -/
def SameBinding (fs gs : List Field) (name : String) : Prop :=
  (first? fs name).map cell = (first? gs name).map cell

end Field

namespace Sheet

/-- Two sheets have the same cells at some names, and these names read no others. -/
structure SameAmong (s s' : Sheet) (among : String → Prop) : Prop where
  closed : ∀ x, among x → ∀ n, s.graph.Reads x n → among n
  cell : ∀ x, among x → s.cell? x = s'.cell? x
  maxDepth : s.maxDepth = s'.maxDepth

namespace SameAmong

variable {s s' : Sheet} {among : String → Prop} {x n : String} {functions : Library}
  (h : s.SameAmong s' among) (hs : s.Prepared) (hs' : s'.Prepared)

include h hs hs'

theorem reads_iff (hx : among x) : s.graph.Reads x n ↔ s'.graph.Reads x n := by
  rw [hs.reads_iff, hs'.reads_iff, h.cell x hx]

theorem symm : s'.SameAmong s among where
  closed x hx n hread := h.closed x hx n ((h.reads_iff hs hs' hx).mpr hread)
  cell x hx := (h.cell x hx).symm
  maxDepth := h.maxDepth.symm

/-- A path from one of the names stays among them, so the other sheet has it too. -/
theorem depends (hx : among x) (hpath : s.graph.Depends x n) :
    among n ∧ s'.graph.Depends x n := by
  induction hpath with
  | single hread => exact ⟨h.closed x hx _ hread, .single ((h.reads_iff hs hs' hx).mp hread)⟩
  | tail _ hread ih =>
    obtain ⟨hmid, hpath'⟩ := ih
    exact ⟨h.closed _ hmid _ hread, hpath'.tail ((h.reads_iff hs hs' hmid).mp hread)⟩

theorem contains_cyclic (hx : among x) : s.cyclic.contains x = s'.cyclic.contains x := by
  rw [Bool.eq_iff_iff, Std.ExtTreeSet.contains_iff_mem, Std.ExtTreeSet.contains_iff_mem,
    hs.plan.mem_cyclic, hs'.plan.mem_cyclic]
  constructor
  · intro hcycle
    exact (h.depends hs hs' hx hcycle).2
  · intro hcycle
    exact ((h.symm hs hs').depends hs' hs hx hcycle).2

/-- The same is due at each of the names in both sheets. -/
theorem due_eq (hx : among x) (own : Option Entry) (c : Context) :
    s.due functions own c x = s'.due functions own c x := by
  rw [due, due, h.contains_cyclic hs hs' hx, h.cell x hx, h.maxDepth]

/-- Full passes from seeds that agree on the names give them the same entries. -/
theorem get?_evaluateWith {seed seed' : Context}
    (hseed : ∀ x, among x → seed.get? x = seed'.get? x) (hx : among x) :
    (s.evaluateWith functions seed).context.get? x =
      (s'.evaluateWith functions seed').context.get? x := by
  have hsolves := solves_evaluateWith hs functions seed
  have hsolves' := solves_evaluateWith hs' functions seed'
  refine agree_of_due hs among seed.get? (fun x hx n hread => .inl (h.closed x hx n hread))
    (fun x _ => hsolves x) (fun x hx => ?_) x hx
  -- the equation of the other sheet is the equation of this one
  rw [hsolves' x, ← hseed x hx, h.due_eq hs hs' hx]

end SameAmong

variable {fs gs : List Field}

/-- The cell of a name is that of the first field that has it. -/
theorem cell?_eq_first? (fs : List Field) (name : String) :
    (ofFields fs).cell? name = (Field.first? fs name).map Field.cell := by
  ext cell
  rw [cell?_ofFields, Option.map_eq_some_iff]
  constructor
  · rintro ⟨⟨_, f⟩, hb, rfl, rfl⟩
    exact ⟨f, Field.mem_bindings.mp hb, rfl⟩
  · rintro ⟨f, hf, rfl⟩
    exact ⟨⟨name, f⟩, Field.mem_bindings.mpr hf, rfl, rfl⟩

theorem sameAmong_ofFields {r : String} (maxDepth : Nat)
    (hsame : ∀ n, Field.Leads fs r n → Field.SameBinding fs gs n) :
    ((ofFields fs).withMaxDepth maxDepth).SameAmong ((ofFields gs).withMaxDepth maxDepth)
      (Field.Leads fs r) where
  closed x hx n hread := by
    have hedge : (ofFields fs).graph.Reads x n := hread
    rw [reads_graph] at hedge
    exact hx.tail hedge
  cell x hx := by
    have hcell : (ofFields fs).cell? x = (ofFields gs).cell? x := by
      rw [cell?_eq_first?, cell?_eq_first?]
      exact hsame x hx
    exact hcell
  maxDepth := rfl

/-- If two templates bind every name that `r` leads to, and `r` itself, to the same, and
two seeds have the same entry or none at each of these names, then the full passes give
`r` the same entry. -/
theorem evaluateWith_local (fs gs : List Field) (functions : Library) (maxDepth : Nat)
    (seed seed' : Context) (r : String)
    (hsame : ∀ n, Field.Leads fs r n →
      Field.SameBinding fs gs n ∧ seed.get? n = seed'.get? n) :
    (((ofFields fs).withMaxDepth maxDepth).evaluateWith functions seed).context.get? r =
      (((ofFields gs).withMaxDepth maxDepth).evaluateWith functions seed').context.get? r :=
  (sameAmong_ofFields maxDepth fun n hn => (hsame n hn).1).get?_evaluateWith
    (prepared_withMaxDepth fs maxDepth) (prepared_withMaxDepth gs maxDepth)
    (fun n hn => (hsame n hn).2) .refl

/-- `a` reads `b` and `d`, which no field declares. Its entry stays when `b` moves into a
frame beside a cycle that reads `a`, `b` is declared again, `e` is broken and `c` gets an
entry in the seed. -/
theorem evaluateWith_local_beside_cycle :
    let fs : List Field := [.ofFormula "a" "=b+d", .ofText "b" (some "x"), .ofFormula "e" "=a"]
    let gs : List Field := [.ofFrame "f" [.ofText "b" (some "x"), .ofFormula "c" "=c+a"],
      .ofFormula "a" "=b+d", .ofFormula "b" "=c", .ofFormula "e" "=("]
    let seed := (∅ : Context).set "d" (.text "y")
    let seed' := seed.set "c" .null
    (∀ n, Field.Leads fs "a" n → Field.SameBinding fs gs n ∧ seed.get? n = seed'.get? n) ∧
      (((ofFields fs).withMaxDepth defaultMaxDepth).evaluateWith .builtin seed).context.get? "a" =
        (((ofFields gs).withMaxDepth defaultMaxDepth).evaluateWith .builtin seed').context.get? "a" := by
  intro fs gs seed seed'
  have hedges : (Graph.ofFields fs).edges = [("a", "b"), ("a", "d"), ("e", "a")] := by
    decide +kernel
  have hclosure : ∀ n, Field.Leads fs "a" n → n = "a" ∨ n = "b" ∨ n = "d" := by
    intro n hn
    rcases hn.cases_tail with rfl | ⟨x, -, hread⟩
    · exact .inl rfl
    · have hedge : (x, n) ∈ (Graph.ofFields fs).edges :=
        Graph.mem_edges.mpr (Graph.reads_ofFields.mpr hread)
      rw [hedges] at hedge
      grind
  have hsame : ∀ n, Field.Leads fs "a" n →
      Field.SameBinding fs gs n ∧ seed.get? n = seed'.get? n := by
    intro n hn
    rw [Field.SameBinding, Field.first?, Field.first?, Field.flattenAll_eq, Field.flattenAll_eq]
    rcases hclosure n hn with rfl | rfl | rfl
    · exact ⟨rfl, rfl⟩
    · exact ⟨rfl, rfl⟩
    · exact ⟨rfl, rfl⟩
  exact ⟨hsame, evaluateWith_local fs gs .builtin defaultMaxDepth seed seed' "a" hsame⟩

end Sheet

end Worksheet
