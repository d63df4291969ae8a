import Worksheet.Proofs.Sheet.Incremental

/- Worksheet Commutation — edits at different names may come in any order.

   Nothing is asked of the context that the edits start from: it need not be what a pass
   has left. A history of edits leaves each name that one of them affects settled, and
   every other name as it was or as it was edited (`Sheet.settled_edits`); a later pass
   does not unsettle what an earlier one has settled. Which names are affected and what
   the edits alone make of the context do not depend on the order, and there is only one
   context that is settled in this way (`Sheet.Settled.unique`). -/
namespace Worksheet

namespace Edit

/-- Edits at different names commute on every context. -/
theorem apply_comm {a b : Edit} (hne : a.name ≠ b.name) (c : Context) :
    b.apply (a.apply c) = a.apply (b.apply c) := by
  apply Context.ext
  intro x
  by_cases ha : a.name = x
  · subst ha
    rw [get?_apply_of_ne _ hne.symm]
    exact a.get?_apply_self c (b.apply c)
  · rw [get?_apply_of_ne (b.apply c) ha]
    by_cases hb : b.name = x
    · subst hb
      exact b.get?_apply_self (a.apply c) c
    · rw [get?_apply_of_ne _ hb, get?_apply_of_ne _ hb, get?_apply_of_ne _ ha]

theorem foldl_apply_perm {edits edits' : List Edit} (hperm : edits.Perm edits')
    (hnames : (edits.map name).Nodup) (c : Context) :
    edits.foldl apply c = edits'.foldl apply c := by
  refine hperm.foldl_eq' (fun a ha b hb d => ?_) c
  by_cases hab : a = b
  · rw [hab]
  · exact apply_comm (fun hname => hab (List.inj_on_of_nodup_map hnames ha hb hname)) d

end Edit

namespace Sheet

variable {s : Sheet} {functions : Library}

/-- There is one context that is settled at some names. -/
theorem Settled.unique (h : s.Prepared) {own c d : Context} {among : String → Prop}
    (hc : s.Settled functions own among c) (hd : s.Settled functions own among d) : c = d := by
  have hout : ∀ x, ¬ among x → c.get? x = d.get? x := fun x hx =>
    ((hc x).2 hx).trans ((hd x).2 hx).symm
  have hin : ∀ x, among x → c.get? x = d.get? x :=
    agree_of_due h among own.get? (fun _ _ n _ => (em (among n)).imp_right (hout n))
      (fun x hx => (hc x).1 hx) (fun x hx => (hd x).1 hx)
  apply Context.ext
  intro x
  exact (em (among x)).elim (hin x) (hout x)

/-- What a history of edits leaves of any context: the names that an edit affects are
settled, and the others are as the edits alone leave them. -/
theorem settled_edits (h : s.Prepared) (functions : Library) (edits : List Edit) (c : Context) :
    s.Settled functions (edits.foldl Edit.apply c)
      (fun x => ∃ edit ∈ edits, x ∈ s.affected edit.name)
      (edits.foldl (s.afterEdit functions) c) := by
  have hstart : s.Settled functions c (fun _ => False) c := fun x =>
    ⟨fun hx => hx.elim, fun _ => rfl⟩
  simpa only [false_or] using hstart.edits h edits

/-- Edits at different names, each followed by an incremental pass, give the same context
in any order. -/
theorem foldl_afterEdit_perm (h : s.Prepared) (functions : Library) {edits edits' : List Edit}
    (hperm : edits.Perm edits') (hnames : (edits.map Edit.name).Nodup) (c : Context) :
    edits.foldl (s.afterEdit functions) c = edits'.foldl (s.afterEdit functions) c := by
  have hsettled := settled_edits h functions edits c
  have hsettled' := settled_edits h functions edits' c
  rw [← Edit.foldl_apply_perm hperm hnames c] at hsettled'
  have hamong : (fun x => ∃ edit ∈ edits', x ∈ s.affected edit.name) =
      fun x => ∃ edit ∈ edits, x ∈ s.affected edit.name :=
    funext fun _ => propext (exists_congr fun _ => and_congr_left fun _ => hperm.mem_iff.symm)
  rw [hamong] at hsettled'
  exact hsettled.unique h hsettled'

/-- Updates at different names give the same context in any order, for every template,
nesting limit and context. -/
theorem foldl_update_perm (fs : List Field) (maxDepth : Nat) (c : Context)
    (values values' : List (String × Value)) (hnames : (values.map Prod.fst).Nodup)
    (hperm : values.Perm values') :
    let s := (ofFields fs).withMaxDepth maxDepth
    values.foldl (fun c v => (s.update v.1 v.2 c).context) c =
      values'.foldl (fun c v => (s.update v.1 v.2 c).context) c := by
  intro s
  have h : s.Prepared := prepared_withMaxDepth fs maxDepth
  have hedits := foldl_afterEdit_perm h .builtin
    (hperm.map fun v => Edit.put v.1 (.ok v.2)) (by rwa [List.map_map]) c
  rw [List.foldl_map, List.foldl_map] at hedits
  exact hedits

/-- `a` and `b` are changed in both orders, on a context in which the formula that reads both
is stale and the name on a cycle has a value. -/
theorem foldl_update_perm_stale :
    let s := (ofFields [.ofNumber "a" none, .ofFormula "b" "=a+d", .ofFormula "c" "=a*b",
      .ofFormula "e" "=e+c"]).withMaxDepth defaultMaxDepth
    let c := ((∅ : Context).set "c" (.text "stale")).set "e" .null
    let values := [("a", .number 2), ("b", .null), ("d", .number 3), ("e", .bool true)]
    let values' := [("e", .bool true), ("d", .number 3), ("b", .null), ("a", .number 2)]
    (values.map Prod.fst).Nodup ∧ values.Perm values' ∧
      values.foldl (fun c v => (s.update v.1 v.2 c).context) c =
        values'.foldl (fun c v => (s.update v.1 v.2 c).context) c := by
  intro s c values values'
  have hnames : (values.map Prod.fst).Nodup := by decide
  have hperm : values.Perm values' := (List.reverse_perm values).symm
  exact ⟨hnames, hperm, foldl_update_perm _ defaultMaxDepth c values values' hnames hperm⟩

end Sheet

end Worksheet
