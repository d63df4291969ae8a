import Worksheet.Value

/- Worksheet Values — the numbers in a value and its nesting.

   A condition on numbers is a condition on values: all their numbers satisfy it, at any
   depth (`Value.AllNumbers`). A value is finite if all its numbers are. Numbers can be
   replaced (`Value.mapNumbers?`), which changes nothing if each is replaced by itself
   (`Value.mapNumbers?_eq_self`). -/
namespace Worksheet.Value

theorem mem_scalarsOf {s : Value} {vs : List Value} :
    s ∈ scalarsOf vs ↔ ∃ v ∈ vs, s ∈ v.scalars := by
  induction vs with
  | nil => simp [scalarsOf]
  | cons v vs ih => simp [scalarsOf, ih]

mutual
theorem list_notMem_scalars (items : List Value) : ∀ v : Value, list items ∉ v.scalars
  | null | bool _ | number _ | text _ => fun h => nomatch List.mem_singleton.mp h
  | list vs => list_notMem_scalarsOf items vs

theorem list_notMem_scalarsOf (items : List Value) : ∀ vs : List Value, list items ∉ scalarsOf vs
  | [] => List.not_mem_nil
  | v :: vs => fun h =>
    (List.mem_append.mp h).elim (list_notMem_scalars items v) (list_notMem_scalarsOf items vs)
end

/-- What is not a list is its own only scalar. -/
theorem scalars_of_mem_scalars {s v : Value} (h : s ∈ v.scalars) : s.scalars = [s] := by
  cases s with
  | list items => exact absurd h (list_notMem_scalars items v)
  | _ => rfl

/-! ## Conditions on numbers -/

/-- Every number in a value satisfies a condition. -/
def AllNumbers (p : Float → Prop) (v : Value) : Prop := ∀ x, number x ∈ v.scalars → p x

namespace AllNumbers

variable {p q : Float → Prop}

theorem mono {v : Value} (hv : v.AllNumbers p) (h : ∀ x, p x → q x) : v.AllNumbers q :=
  fun x hx => h x (hv x hx)

theorem number_iff {x : Float} : (number x).AllNumbers p ↔ p x := by
  constructor
  · exact fun h => h x (List.mem_singleton.mpr rfl)
  · intro h y hy
    obtain rfl := number.inj (List.mem_singleton.mp hy)
    exact h

theorem list_iff {vs : List Value} : (list vs).AllNumbers p ↔ ∀ v ∈ vs, v.AllNumbers p := by
  constructor
  · exact fun h v hv x hx => h x (mem_scalarsOf.mpr ⟨v, hv, hx⟩)
  · intro h x hx
    obtain ⟨v, hv, hx⟩ := mem_scalarsOf.mp hx
    exact h v hv x hx

theorem null : Value.null.AllNumbers p := fun _ h => nomatch List.mem_singleton.mp h

theorem bool (b : Bool) : (Value.bool b).AllNumbers p := fun _ h => nomatch List.mem_singleton.mp h

theorem text (s : String) : (Value.text s).AllNumbers p := fun _ h => nomatch List.mem_singleton.mp h

end AllNumbers

instance (p : Float → Prop) [DecidablePred p] (v : Value) : Decidable (v.AllNumbers p) :=
  decidable_of_iff (∀ s ∈ v.scalars, ∀ x ∈ s.number?, p x) (by
    constructor
    · exact fun h x hx => h (number x) hx x rfl
    · intro h s hs x hx
      cases s with
      | number y => exact Option.some.inj hx ▸ h y hs
      | _ => cases hx)

/-- Every number in a value is finite. -/
def Finite (v : Value) : Prop := v.AllNumbers fun x => x.isFinite = true

theorem finite_number {x : Float} : (number x).Finite ↔ x.isFinite = true := AllNumbers.number_iff

theorem finite_list {vs : List Value} : (list vs).Finite ↔ ∀ v ∈ vs, v.Finite := AllNumbers.list_iff

theorem finite_null : null.Finite := .null

theorem finite_bool (b : Bool) : (bool b).Finite := .bool b

theorem finite_text (s : String) : (text s).Finite := .text s

/-! ## Nesting -/

mutual
/-- How deep the lists of a value are nested. -/
def nesting : Value → Nat
  | list items => nestingAll items + 1
  | _ => 0

def nestingAll : List Value → Nat
  | [] => 0
  | v :: vs => max v.nesting (nestingAll vs)
end

theorem nesting_of_mem_scalars {s v : Value} (h : s ∈ v.scalars) : s.nesting = 0 := by
  cases s with
  | list items => exact absurd h (list_notMem_scalars items v)
  | _ => rfl

/-! ## Numbers replaced -/

mutual
/-- A value with another value in place of each number, if there is one for each. -/
def mapNumbers? (f : Float → Option Value) : Value → Option Value
  | number x => f x
  | list items => (mapNumbersAll? f items).map list
  | v => some v

def mapNumbersAll? (f : Float → Option Value) : List Value → Option (List Value)
  | [] => some []
  | v :: vs => do
    let w ← v.mapNumbers? f
    let ws ← mapNumbersAll? f vs
    return w :: ws
end

section

variable {f : Float → Option Value}

mutual
theorem mapNumbers?_eq_self : ∀ {v : Value}, (v.AllNumbers fun x => f x = some (number x)) →
    v.mapNumbers? f = some v
  | null, _ | bool _, _ | text _, _ => rfl
  | number _, h => AllNumbers.number_iff.mp h
  | list items, h => by
    rw [mapNumbers?, mapNumbersAll?_eq_self (AllNumbers.list_iff.mp h)]
    rfl

theorem mapNumbersAll?_eq_self : ∀ {vs : List Value},
    (∀ v ∈ vs, v.AllNumbers fun x => f x = some (number x)) → mapNumbersAll? f vs = some vs
  | [], _ => rfl
  | v :: vs, h => by
    obtain ⟨hv, hvs⟩ := List.forall_mem_cons.mp h
    rw [mapNumbersAll?, mapNumbers?_eq_self hv, mapNumbersAll?_eq_self hvs]
    rfl
end

end

end Worksheet.Value
