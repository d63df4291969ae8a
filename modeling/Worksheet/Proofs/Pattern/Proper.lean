import Worksheet.Proofs.Pattern.Match

/- Worksheet Proper Trees — repetitions of trees admit what they ask for.

   The reader refuses a repetition whose greatest count is below its least, and what a tree
   means keeps the counts, so the patterns that are read are proper. -/
namespace Worksheet

namespace PatternTree

mutual
/-- No repetition asks for more than it admits. -/
def Proper : PatternTree → Prop
  | .repetition inner least most => inner.Proper ∧ ∀ m, most = some m → least ≤ m
  | .group _ inner => inner.Proper
  | .alternation branches => ProperAll branches
  | .concat parts => ProperAll parts
  | .flags _ | .literal _ | .dot | .anchor _ | .letter _ _ | .property _ _ | .bracket _ _ => True

def ProperAll : List PatternTree → Prop
  | [] => True
  | t :: ts => t.Proper ∧ ProperAll ts
end

theorem properAll_iff {ts : List PatternTree} : ProperAll ts ↔ ∀ t ∈ ts, t.Proper := by
  induction ts with
  | nil => simp [ProperAll]
  | cons t ts ih => simp [ProperAll, ih]

theorem ofParts_proper {ts : List PatternTree} (h : ∀ t ∈ ts, t.Proper) : (ofParts ts).Proper := by
  unfold ofParts
  split
  · exact h _ (List.mem_singleton.mpr rfl)
  · rw [Proper]
    exact properAll_iff.mpr h

theorem ofBranches_proper {ts : List PatternTree} (h : ∀ t ∈ ts, t.Proper) :
    (ofBranches ts).Proper := by
  unfold ofBranches
  split
  · exact h _ (List.mem_singleton.mpr rfl)
  · rw [Proper]
    exact properAll_iff.mpr h

end PatternTree

namespace Pattern

theorem proper_of_map {o : Option CharSet} {f g : PatternFlags} {p : Pattern}
    (h : (o.map fun s => (Pattern.one s, f)) = some (p, g)) : p.Proper := by
  obtain ⟨s, -, heq⟩ := Option.map_eq_some_iff.mp h
  obtain ⟨rfl, -⟩ := Prod.mk.inj heq
  exact trivial

mutual
/-- What a proper tree means is proper. -/
theorem ofTree_proper {f g : PatternFlags} {p : Pattern} :
    ∀ t : PatternTree, t.Proper → ofTree f t = some (p, g) → p.Proper
  | .flags change, _, h => by
    obtain ⟨rfl, -⟩ := Prod.mk.inj (Option.some.inj h)
    exact trivial
  | .anchor a, _, h => by
    obtain ⟨rfl, -⟩ := Prod.mk.inj (Option.some.inj h)
    exact trivial
  | .literal _, _, h => proper_of_map h
  | .dot, _, h => proper_of_map h
  | .letter _ _, _, h => proper_of_map h
  | .property _ _, _, h => proper_of_map h
  | .bracket _ _, _, h => proper_of_map h
  | .repetition inner least most, ht, h => by
    obtain ⟨⟨q, f'⟩, hq, h⟩ := Option.bind_eq_some_iff.mp h
    obtain ⟨rfl, -⟩ := Prod.mk.inj (Option.some.inj h)
    exact ⟨ofTree_proper inner ht.1 hq, ht.2⟩
  | .group change inner, ht, h => by
    obtain ⟨⟨q, f'⟩, hq, h⟩ := Option.bind_eq_some_iff.mp h
    obtain ⟨rfl, -⟩ := Prod.mk.inj (Option.some.inj h)
    exact ofTree_proper inner ht hq
  | .alternation branches, ht, h => ofBranches_proper branches ht h
  | .concat parts, ht, h => ofParts_proper parts ht h

theorem ofParts_proper {f g : PatternFlags} {p : Pattern} :
    ∀ ts : List PatternTree, PatternTree.ProperAll ts → ofParts f ts = some (p, g) → p.Proper
  | [], _, h => by
    obtain ⟨rfl, -⟩ := Prod.mk.inj (Option.some.inj h)
    exact trivial
  | t :: ts, ht, h => by
    obtain ⟨⟨q, f'⟩, hq, h⟩ := Option.bind_eq_some_iff.mp h
    obtain ⟨⟨r, g'⟩, hr, h⟩ := Option.bind_eq_some_iff.mp h
    obtain ⟨rfl, -⟩ := Prod.mk.inj (Option.some.inj h)
    exact ⟨ofTree_proper t ht.1 hq, ofParts_proper ts ht.2 hr⟩

theorem ofBranches_proper {f g : PatternFlags} {p : Pattern} :
    ∀ ts : List PatternTree, PatternTree.ProperAll ts → ofBranches f ts = some (p, g) → p.Proper
  | [], _, h => by
    obtain ⟨rfl, -⟩ := Prod.mk.inj (Option.some.inj h)
    exact trivial
  | t :: ts, ht, h => by
    obtain ⟨⟨q, f'⟩, hq, h⟩ := Option.bind_eq_some_iff.mp h
    obtain ⟨⟨r, g'⟩, hr, h⟩ := Option.bind_eq_some_iff.mp h
    obtain ⟨rfl, -⟩ := Prod.mk.inj (Option.some.inj h)
    exact ⟨ofTree_proper t ht.1 hq, ofBranches_proper ts ht.2 hr⟩
end

end Pattern

end Worksheet
