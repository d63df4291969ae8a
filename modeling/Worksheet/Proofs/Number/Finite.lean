import Worksheet.Number.Rounding
import Worksheet.Json.Basic
import Worksheet.Proofs.Number.Scientific

/- Worksheet Finite Numbers — operations that lead from finite numbers to finite ones.

   Sums, products and powers can leave the finite numbers, and are checked where they are
   made. The operations here are not checked, and need not be: they change the sign, go to
   a whole number beside, choose, take a part or a root. -/
namespace Worksheet.Number

open Float.Model (Format UnpackedFloat totalExponent)
open Float.Model.UnpackedFloat

theorem isFinite_zero (s : Sign) : (ofForm (.zero s)).isFinite = true :=
  congrArg UnpackedFloat.isFinite (unpack_ofForm_zero s)

theorem isFinite_ofForm {s : Sign} {m : Nat} {e : Int} {hm : 0 < m} (hc : Canonical m e)
    (he : e ≤ 971) : (ofForm (.finite s m e hm)).isFinite = true :=
  congrArg UnpackedFloat.isFinite (unpack_ofForm hc he)

/-- A finite number is a zero or a mantissa with an exponent. -/
theorem exists_form {x : Float} (hx : x.isFinite = true) :
    (∃ s, x = ofForm (.zero s)) ∨
      ∃ s m e hm, x = ofForm (.finite s m e hm) ∧ Canonical m e ∧ e ≤ 971 := by
  have hround := ofForm_unpack x
  change x.toModel.unpack.isFinite = true at hx
  cases hform : x.toModel.unpack with
  | notANumber => exact nomatch hform ▸ hx
  | infinity s => exact nomatch hform ▸ hx
  | zero s => exact .inl ⟨s, (hform ▸ hround).symm⟩
  | finite s m e hm =>
    exact .inr ⟨s, m, e, hm, (hform ▸ hround).symm, canonical_of_unpack hform⟩

variable {x : Float}

/-- An operation that changes nothing but the sign. -/
theorem isFinite_sign {f : UnpackedFloat → UnpackedFloat} (g : Sign → Sign)
    (hzero : ∀ s, f (.zero s) = .zero (g s))
    (hfinite : ∀ s m e hm, f (.finite s m e hm) = .finite (g s) m e hm)
    (hx : x.isFinite = true) : (ofForm (f x.toModel.unpack)).isFinite = true := by
  rcases exists_form hx with ⟨s, rfl⟩ | ⟨s, m, e, hm, rfl, hc, he⟩
  · rw [unpack_ofForm_zero, hzero]
    exact isFinite_zero _
  · rw [unpack_ofForm hc he, hfinite]
    exact isFinite_ofForm hc he

theorem isFinite_neg (hx : x.isFinite = true) : (-x).isFinite = true :=
  isFinite_sign (- ·) (fun _ => rfl) (fun _ _ _ _ => rfl) hx

theorem isFinite_abs (hx : x.isFinite = true) : x.abs.isFinite = true :=
  isFinite_sign (fun _ => .positive) (fun _ => rfl) (fun _ _ _ _ => rfl) hx

theorem isFinite_signed (s : Sign) {n : Nat} (h : n < 2 ^ 1022) :
    (signed s n).isFinite = true := by
  cases s with
  | positive => exact isFinite_ofNat h
  | negative => exact isFinite_neg (isFinite_ofNat h)

theorem isFinite_toWhole (awayFromZero : Sign → Bool) (hx : x.isFinite = true) :
    (toWhole awayFromZero x).isFinite = true := by
  rw [toWhole]
  split
  · rename_i s m e hm hform
    simp only
    split
    · exact hx
    · have hlt : m < 2 ^ 53 := (canonical_of_unpack hform).1.lt_two_pow hm
      have hdiv : m / Nat.pow 2 (-e).toNat ≤ m := Nat.div_le_self _ _
      have hle : m / Nat.pow 2 (-e).toNat + (if awayFromZero s = true then 1 else 0) ≤ 2 ^ 53 := by
        split <;> omega
      exact isFinite_signed s (hle.trans_lt (pow_lt_pow_right₀ one_lt_two (by decide)))
  · exact hx

theorem Rounded.isFinite {s : Sign} {t : Int} {u : UnpackedFloat} (h : Rounded s t u)
    (ht : t ≤ 1023) : (ofForm u).isFinite = true := by
  rcases h with rfl | ⟨m, e, hm, rfl, hc, he⟩
  · exact isFinite_zero s
  · exact isFinite_ofForm hc (by omega)

theorem isFinite_div_hundred (hx : x.isFinite = true) : (x / 100).isFinite = true := by
  rcases exists_form hx with ⟨s, rfl⟩ | ⟨s, m, e, hm, rfl, hc, he⟩
  · change (ofForm (div Format.binary64 (ofForm (.zero s)).toModel.unpack
      (100 : Float).toModel.unpack)).isFinite = true
    rw [unpack_ofForm_zero]
    exact isFinite_zero _
  · change (ofForm (div Format.binary64 (ofForm (.finite s m e hm)).toModel.unpack
      (.finite .positive 7036874417766400 (-46) _))).isFinite = true
    rw [unpack_ofForm hc he]
    refine (div_rounded hm (by decide)).isFinite ?_
    have hlog : m.log2 ≤ 52 := (canonical_iff.mp hc).1
    have hhundred : totalExponent 7036874417766400 (-46) = 7 := by decide
    rw [hhundred, totalExponent]
    omega

theorem isFinite_sqrt (hx : x.isFinite = true) (hneg : ¬ x < 0) : x.sqrt.isFinite = true := by
  rcases exists_form hx with ⟨s, rfl⟩ | ⟨s, m, e, hm, rfl, hc, he⟩
  · change (ofForm (sqrt Format.binary64 (ofForm (.zero s)).toModel.unpack)).isFinite = true
    rw [unpack_ofForm_zero]
    exact isFinite_zero _
  · cases s with
    | negative =>
      refine absurd ?_ hneg
      refine decide_eq_true ?_
      change (ofForm (.finite .negative m e hm)).toModel.unpack.lt (.zero .positive) = true
      rw [unpack_ofForm hc he]
      rfl
    | positive =>
      change (ofForm (sqrt Format.binary64
        (ofForm (.finite .positive m e hm)).toModel.unpack)).isFinite = true
      rw [unpack_ofForm hc he]
      exact (sqrt_rounded hm hc he).isFinite le_rfl

theorem isFinite_floatOfInt {n : Int} (h : n.natAbs < 2 ^ 1022) :
    (Json.floatOfInt n).isFinite = true := by
  rw [Json.floatOfInt]
  split
  · exact isFinite_neg (isFinite_ofNat h)
  · exact isFinite_ofNat h

end Worksheet.Number
