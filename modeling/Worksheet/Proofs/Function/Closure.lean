import Worksheet.Proofs.Function.Library
import Worksheet.Proofs.Number.Finite
import Worksheet.Proofs.Value

/- Worksheet Closure — what calculation never leads out of.

   Formulas make numbers in two ways: by operations whose result is checked to be finite,
   and by a few that are not checked. A set of values that has all finite numbers, and that
   these few do not lead out of, is never left by the built-in functions
   (`Library.keeps_builtin`). The finite values are such a set, and so are the values whose
   lists are nested up to some depth, since no function makes a list. -/
namespace Worksheet

/-- A set of values that calculation does not lead out of. -/
structure Value.Closed (p : Value → Prop) : Prop where
  bool : ∀ b, p (bool b)
  text : ∀ s, p (text s)
  scalars : ∀ v, p v → ∀ s ∈ v.scalars, p s
  finite : ∀ x : Float, x.isFinite = true → p (number x)
  neg : ∀ x, p (number x) → p (number (-x))
  percent : ∀ x, p (number x) → p (number (x / 100))
  abs : ∀ x, p (number x) → p (number x.abs)
  floor : ∀ x, p (number x) → p (number (Number.floor x))
  sqrt : ∀ x, p (number x) → ¬ x < 0 → p (number x.sqrt)

namespace Value

theorem closed_finite : Closed Finite where
  bool := finite_bool
  text := finite_text
  scalars v hv s hs x hx := by
    rw [scalars_of_mem_scalars hs, List.mem_singleton] at hx
    exact hv x (hx ▸ hs)
  finite _ h := finite_number.mpr h
  neg _ h := finite_number.mpr (Number.isFinite_neg (finite_number.mp h))
  percent _ h := finite_number.mpr (Number.isFinite_div_hundred (finite_number.mp h))
  abs _ h := finite_number.mpr (Number.isFinite_abs (finite_number.mp h))
  floor _ h := finite_number.mpr (Number.isFinite_toWhole _ (finite_number.mp h))
  sqrt _ h hx := finite_number.mpr (Number.isFinite_sqrt (finite_number.mp h) hx)

theorem closed_nesting (n : Nat) : Closed fun v => v.nesting ≤ n where
  bool _ := Nat.zero_le n
  text _ := Nat.zero_le n
  scalars _ _ _ hs := (nesting_of_mem_scalars hs).trans_le (Nat.zero_le n)
  finite _ _ := Nat.zero_le n
  neg _ _ := Nat.zero_le n
  percent _ _ := Nat.zero_le n
  abs _ _ := Nat.zero_le n
  floor _ _ := Nat.zero_le n
  sqrt _ _ _ := Nat.zero_le n

end Value

variable {p : Value → Prop} {args : List Value}

theorem yields_finite (hp : Value.Closed p) (x : Float) : Yields p (finite x) :=
  .ite (fun h => .ok (hp.finite x h)) fun _ => .error _

namespace Function

theorem yields_numberArg (hargs : ∀ v ∈ args, p v) (i : Nat) :
    Yields (fun x => p (.number x)) (numberArg args i) := by
  rw [numberArg]
  split
  · rename_i x hx
    exact .ok (hargs _ (List.mem_of_getElem? hx))
  · exact .error _

/-- Every number among the arguments, at any depth, is a value of the set. -/
theorem number_of_mem_numbers (hp : Value.Closed p) (hargs : ∀ v ∈ args, p v) {x : Float}
    (hx : x ∈ numbers args) : p (.number x) := by
  obtain ⟨s, hs, hnumber⟩ := List.mem_filterMap.mp hx
  obtain ⟨v, hv, hs⟩ := Value.mem_scalarsOf.mp hs
  cases s with
  | number y =>
    obtain rfl := Option.some.inj hnumber
    exact hp.scalars v (hargs v hv) _ hs
  | _ => exact nomatch hnumber

/-- A choice among numbers is one of them, or zero. -/
theorem value_choose (hp : Value.Closed p) (hargs : ∀ v ∈ args, p v)
    {f : Float → Float → Float} (hf : ∀ x y, f x y = x ∨ f x y = y) :
    p (.number (choose f (numbers args))) := by
  have hfold : ∀ (xs : List Float) (x : Float), p (.number x) → (∀ y ∈ xs, p (.number y)) →
      p (.number (xs.foldl f x)) := by
    intro xs
    induction xs with
    | nil => exact fun x hx _ => hx
    | cons y ys ih =>
      intro x hx hys
      obtain ⟨hy, hys⟩ := List.forall_mem_cons.mp hys
      have hxy : p (.number (f x y)) := by
        rcases hf x y with h | h
        · rwa [h]
        · rwa [h]
      exact ih (f x y) hxy hys
  have hnumbers : ∀ x ∈ numbers args, p (.number x) := fun x => number_of_mem_numbers hp hargs
  cases h : numbers args with
  | nil => exact hp.finite 0 (by decide +kernel)
  | cons x xs =>
    rw [h] at hnumbers
    obtain ⟨hx, hxs⟩ := List.forall_mem_cons.mp hnumbers
    exact hfold xs x hx hxs

theorem least_or (x y : Float) : Number.least x y = x ∨ Number.least x y = y := by
  rw [Number.least]
  split
  · exact .inr rfl
  · exact .inl rfl

theorem greatest_or (x y : Float) : Number.greatest x y = x ∨ Number.greatest x y = y := by
  rw [Number.greatest]
  split
  · exact .inr rfl
  · exact .inl rfl

theorem isFinite_ofCount (n : Nat) : (ofCount n).isFinite = true := by
  refine Number.isFinite_ofNat ((Nat.min_le_right _ _).trans_lt ?_)
  exact lt_of_lt_of_le (b := 2 ^ 64) (by decide) (pow_le_pow_right₀ one_le_two (by decide))

theorem yields_average (hp : Value.Closed p) (args : List Value) : Yields p (average args) :=
  .ite (fun _ => .error _) fun _ => yields_finite hp _

theorem yields_count (hp : Value.Closed p) (args : List Value) : Yields p (count args) :=
  .ok (hp.finite _ (isFinite_ofCount _))

theorem yields_sqrt (hp : Value.Closed p) (hargs : ∀ v ∈ args, p v) : Yields p (sqrt args) :=
  (yields_numberArg hargs 0).bind fun x hx =>
    .ite (fun _ => .error _) fun hneg => .ok (hp.sqrt x hx hneg)

theorem yields_round (hp : Value.Closed p) (args : List Value) : Yields p (round args) :=
  (Yields.always fun _ => trivial).bind fun _ _ =>
    .ite (fun _ => yields_finite hp _) fun _ => yields_finite hp _

theorem yields_mod (hp : Value.Closed p) (args : List Value) : Yields p (mod args) :=
  (Yields.always fun _ => trivial).bind fun _ _ => (Yields.always fun _ => trivial).bind fun _ _ =>
    .ite (fun _ => .error _) fun _ => yields_finite hp _

theorem yields_ite (hp : Value.Closed p) (hargs : ∀ v ∈ args, p v) : Yields p (ite args) := by
  refine (Yields.always fun _ => trivial).bind fun _ _ => .ite (fun _ => ?_) fun _ => ?_
  · split
    · rename_i v hv
      exact .ok (hargs v (List.mem_of_getElem? hv))
    · exact .error _
  · refine .ok ?_
    cases hv : args[2]? with
    | none => exact hp.bool false
    | some v => exact hargs v (List.mem_of_getElem? hv)

/-- The built-in functions stay in a set of values that calculation does not lead out of. -/
theorem yields_builtins (hp : Value.Closed p) :
    ∀ f ∈ builtins, ∀ args, (∀ v ∈ args, p v) → Yields p (f.apply args) := by
  simp only [builtins, List.forall_mem_cons, List.not_mem_nil, false_imp_iff, implies_true,
    and_true]
  have hany {α : Type} {x : Except CellError α} {f : α → Entry} (h : ∀ a, Yields p (f a)) :
      Yields p (x >>= f) := (Yields.always fun _ => trivial).bind fun a _ => h a
  exact ⟨fun _ _ => yields_finite hp _, fun args _ => yields_average hp args,
    fun _ hargs => .ok (value_choose hp hargs least_or),
    fun _ hargs => .ok (value_choose hp hargs greatest_or),
    fun args _ => yields_count hp args,
    fun _ hargs => (yields_numberArg hargs 0).bind fun x hx => .ok (hp.abs x hx),
    fun _ hargs => (yields_numberArg hargs 0).bind fun x hx => .ok (hp.floor x hx),
    fun _ hargs => yields_sqrt hp hargs,
    fun args _ => yields_round hp args,
    fun _ _ => hany fun _ => yields_finite hp _,
    fun _ _ => hany fun _ => yields_finite hp _,
    fun args _ => yields_mod hp args,
    fun _ _ => hany fun _ => hany fun _ => yields_finite hp _,
    fun _ hargs => yields_ite hp hargs,
    fun _ _ => .ok (hp.bool _), fun _ _ => .ok (hp.bool _),
    fun _ _ => hany fun _ => .ok (hp.bool _),
    fun _ _ => .ok (hp.text _), fun _ _ => .ok (hp.text _),
    fun _ _ => hany fun _ => .ok (hp.finite _ (isFinite_ofCount _)),
    fun _ _ => hany fun _ => .ok (hp.text _), fun _ _ => hany fun _ => .ok (hp.text _),
    fun _ _ => hany fun _ => .ok (hp.text _), fun _ _ => hany fun _ => .ok (hp.text _)⟩

end Function

/-- The functions of a library stay in a set of values. -/
def Library.Keeps (p : Value → Prop) (l : Library) : Prop :=
  ∀ name f, l.get? name = some f → ∀ args, (∀ v ∈ args, p v) → Yields p (f.apply args)

theorem Library.keeps_builtin (hp : Value.Closed p) : builtin.Keeps p := fun _ f h =>
  Function.yields_builtins hp f (mem_of_get?_ofList h)

end Worksheet
