import Worksheet.Context
import Worksheet.Proofs.Value

/- Worksheet Contexts — what every value in a context has in common.

   A condition on all values of a context is kept by putting a value that satisfies it at
   a name (`Context.AllValues.set`), and errors count for nothing; values alone leave a
   context without errors (`Context.ErrorFree.foldl_set`). -/
namespace Worksheet.Context

variable {c : Context} {es : List (String × Entry)} {name : String}

/-! ## Entries put into a context -/

theorem get?_insertAll_of_forall_ne (h : ∀ e ∈ es, e.1 ≠ name) :
    (c.insertAll es).get? name = c.get? name := by
  induction es generalizing c with
  | nil => rfl
  | cons e es ih =>
    obtain ⟨he, hes⟩ := List.forall_mem_cons.mp h
    change ((c.insert e.1 e.2).insertAll es).get? name = _
    rw [ih hes, get?_insert, if_neg he]

theorem get?_insertAll_of_mem (hes : es.Pairwise fun a b => a.1 ≠ b.1) {e : Entry}
    (h : (name, e) ∈ es) : (c.insertAll es).get? name = some e := by
  induction es generalizing c with
  | nil => exact nomatch h
  | cons a es ih =>
    obtain ⟨ha, hes⟩ := List.pairwise_cons.mp hes
    change ((c.insert a.1 a.2).insertAll es).get? name = _
    rcases List.mem_cons.mp h with rfl | h
    · rw [get?_insertAll_of_forall_ne fun b hb hname => ha b hb hname.symm, get?_insert, if_pos rfl]
    · exact ih hes h

theorem mem_toList {e : Entry} : (name, e) ∈ c.toList ↔ c.get? name = some e :=
  Std.ExtTreeMap.mem_toList_iff_getElem?_eq_some

/-! ## All values -/

/-- Every value in a context satisfies a condition. -/
def AllValues (p : Value → Prop) (c : Context) : Prop :=
  ∀ name v, c.get? name = some (.ok v) → p v

instance (p : Value → Prop) [DecidablePred p] (c : Context) : Decidable (c.AllValues p) :=
  decidable_of_iff (∀ m ∈ c.toList, ∀ v ∈ m.2.toOption, p v) (by
    constructor
    · exact fun h name v hv => h (name, .ok v) (mem_toList.mpr hv) v rfl
    · rintro h ⟨name, e⟩ hm v hv
      cases e with
      | ok w => exact Option.some.inj hv ▸ h name w (mem_toList.mp hm)
      | error e => cases hv)

namespace AllValues

variable {p q : Value → Prop}

theorem empty (p : Value → Prop) : (∅ : Context).AllValues p := by
  intro name v h
  rw [get?_empty] at h
  exact nomatch h

theorem mono (hc : c.AllValues p) (h : ∀ v, p v → q v) : c.AllValues q :=
  fun name v hv => h v (hc name v hv)

theorem insert (hc : c.AllValues p) {e : Entry} (he : ∀ v, e = .ok v → p v) :
    (c.insert name e).AllValues p := by
  intro other v hv
  rw [get?_insert] at hv
  split at hv
  · exact he v (Option.some.inj hv)
  · exact hc other v hv

theorem set (hc : c.AllValues p) {v : Value} (hv : p v) : (c.set name v).AllValues p :=
  hc.insert fun _ hw => Except.ok.inj hw ▸ hv

theorem erase (hc : c.AllValues p) (name : String) : (c.erase name).AllValues p := by
  intro other v hv
  rw [get?_erase] at hv
  split at hv
  · exact nomatch hv
  · exact hc other v hv

/-- Values are put into a context one after the other. -/
theorem foldl_set (hc : c.AllValues p) {vs : List (String × Value)} (h : ∀ v ∈ vs, p v.2) :
    (vs.foldl (fun c v => c.set v.1 v.2) c).AllValues p := by
  induction vs generalizing c with
  | nil => exact hc
  | cons v vs ih =>
    obtain ⟨hv, hvs⟩ := List.forall_mem_cons.mp h
    exact ih (hc.set hv) hvs

theorem ofValues {vs : List (String × Value)} (h : ∀ v ∈ vs, p v.2) :
    (ofValues vs).AllValues p := by
  rw [Context.ofValues, ofList, insertAll, List.foldl_map]
  exact (empty p).foldl_set h

end AllValues

/-! ## No errors -/

/-- No entry of a context is an error. -/
def ErrorFree (c : Context) : Prop := ∀ name err, c.get? name ≠ some (.error err)

namespace ErrorFree

theorem empty : (∅ : Context).ErrorFree := by
  intro name err h
  rw [get?_empty] at h
  exact nomatch h

theorem set (hc : c.ErrorFree) (name : String) (v : Value) : (c.set name v).ErrorFree := by
  intro other err h
  rw [Context.set, get?_insert] at h
  split at h
  · exact nomatch h
  · exact hc other err h

/-- Values are put into a context one after the other. -/
theorem foldl_set (hc : c.ErrorFree) (vs : List (String × Value)) :
    (vs.foldl (fun c v => c.set v.1 v.2) c).ErrorFree := by
  induction vs generalizing c with
  | nil => exact hc
  | cons v vs ih => exact ih (hc.set v.1 v.2)

theorem ofValues (vs : List (String × Value)) : (ofValues vs).ErrorFree := by
  rw [Context.ofValues, ofList, insertAll, List.foldl_map]
  exact empty.foldl_set vs

end ErrorFree

end Worksheet.Context
