import Worksheet.Function.Basic
import Worksheet.Proofs.Number.Finite

/- Worksheet Counts — counts as numbers.

   A count becomes the number nearest to it. That of a positive count is positive and finite
   (`exists_form_ofNat`), so only a count of nothing divides by zero
   (`Function.ofCount_beq_zero`), and what is infinite or NaN stays so when it is divided by a
   count (`Function.isFinite_div_ofCount`). -/
namespace Worksheet

namespace Number

open Float.Model (Format UnpackedFloat totalExponent)
open Float.Model.UnpackedFloat

/-- An integer that is too long to be exact is not rounded to zero. -/
theorem ofScientific_ne_zero {n : Nat} (hn : 0 < n) {s : Sign} :
    UnpackedFloat.ofScientific Format.binary64 n 0 ≠ .zero s := by
  have hbits : (2 : Int) ^ Format.binary64.exponentBits = 2048 := rfl
  have hlog : (n <<< Format.binary64.mantissaBits).log2 = n.log2 + 53 := by
    rw [Nat.shiftLeft_eq]
    exact log2_mul_two_pow hn 53
  rw [UnpackedFloat.ofScientific, dif_neg hn.ne', hbits, if_neg (by decide), if_neg (by omega),
    if_pos le_rfl]
  refine product_ne_zero _ _ (by omega) ?_ s
  rw [totalExponent, Int.toNat_zero, pow_zero, mul_one, hlog, add_zero]
  show (-1021 : Int) < ((n.log2 + 53 : Nat) : Int) + 1 + -53
  omega

/-- A positive integer is a mantissa with an exponent, however long it is. -/
theorem exists_form_ofNat {n : Nat} (hn : 0 < n) (h : n < 2 ^ 1022) :
    ∃ m e hm, (Float.ofNat n).toModel.unpack = .finite .positive m e hm := by
  rcases Nat.lt_or_ge n (2 ^ 53) with hlt | hge
  · -- a short one is exact, with its bits moved to the front
    generalize hk : 52 - n.log2 = k
    have hlog : n.log2 ≤ 52 := log2_le_of_lt hlt
    have hmlog : (n * 2 ^ k).log2 = 52 := by
      rw [log2_mul_two_pow hn]
      omega
    have hc : Canonical (n * 2 ^ k) (-k) := canonical_iff.mpr ⟨hmlog.le, by omega, .inl hmlog⟩
    have hvalue : (n : ℚ) * 10 ^ signedExponent false 0 = ((n * 2 ^ k : Nat) : ℚ) * 2 ^ (-k : Int) := by
      rw [zpow_neg, zpow_natCast]
      push_cast
      rw [mul_inv_cancel_right₀ (by positivity)]
      simp [signedExponent]
    have hexact := ofScientific_exact (by positivity) hc (by omega) hvalue
    exact ⟨_, _, _, (congrArg (·.toModel.unpack) hexact).trans (unpack_ofForm hc (by omega))⟩
  · have hform : Float.ofNat n = ofForm (UnpackedFloat.ofScientific Format.binary64 n 0) := by
      rw [Float.ofNat, OfScientific.ofScientific, instOfScientificFloat]
      simp only [Float.ofScientific]
      rw [dif_neg (by omega)]
      rfl
    have hbound : ((n : ℚ) * 10 ^ (0 : Int)) < 2 ^ (1022 : Int) := by
      have hcast : (n : ℚ) < 2 ^ 1022 := by exact_mod_cast h
      simpa using hcast
    rcases rounds_ofScientific hn 0 with hrounds | ⟨-, hlarge⟩
    · rcases hrounds.shape with hzero | ⟨m, e, hm, hu, hc, he⟩
      · exact absurd hzero (ofScientific_ne_zero hn)
      · have hle : e ≤ 971 := by
          rcases he with he | he
          · omega
          · have := (zpow_lt_zpow_iff_right₀ one_lt_two).mp (he.trans_lt hbound)
            omega
        rw [hform, hu]
        exact ⟨m, e, hm, unpack_ofForm hc hle⟩
    · exact absurd (hlarge.trans_lt hbound) (not_lt.mpr (zpow_le_zpow_right₀ one_le_two (by decide)))

/-- What is not finite stays so when it is divided by a positive number. -/
theorem isFinite_div {x y : Float} {m : Nat} {e : Int} {hm : 0 < m}
    (hx : x.isFinite = false) (hy : y.toModel.unpack = .finite .positive m e hm) :
    (x / y).isFinite = false := by
  change x.toModel.unpack.isFinite = false at hx
  change (ofForm (div Format.binary64 x.toModel.unpack y.toModel.unpack)).isFinite = false
  rw [hy]
  cases hform : x.toModel.unpack with
  | notANumber => exact congrArg UnpackedFloat.isFinite unpack_packedNaN
  | infinity s =>
    show (ofForm (.infinity (s / .positive))).isFinite = false
    cases s <;> decide +kernel
  | zero s => exact nomatch hform ▸ hx
  | finite s m e hm => exact nomatch hform ▸ hx

/-- A positive number is not zero. -/
theorem beq_zero_eq_false {y : Float} {m : Nat} {e : Int} {hm : 0 < m}
    (hy : y.toModel.unpack = .finite .positive m e hm) : (y == 0) = false := by
  change (y.toModel.unpack.beq (0 : Float).toModel.unpack) = false
  rw [hy]
  rfl

end Number

namespace Function

/-- A positive count is a mantissa with an exponent. -/
theorem exists_form_ofCount {n : Nat} (hn : 0 < n) :
    ∃ m e hm, (ofCount n).toModel.unpack = .finite .positive m e hm := by
  refine Number.exists_form_ofNat (lt_min hn (by decide)) ((Nat.min_le_right _ _).trans_lt ?_)
  exact lt_of_lt_of_le (b := 2 ^ 64) (by decide) (pow_le_pow_right₀ one_le_two (by decide))

/-- A count is zero exactly if nothing is counted. -/
theorem ofCount_beq_zero (n : Nat) : (ofCount n == 0) = true ↔ n = 0 := by
  rcases Nat.eq_zero_or_pos n with rfl | hn
  · exact iff_of_true (by decide +kernel) rfl
  · obtain ⟨m, e, hm, hform⟩ := exists_form_ofCount hn
    rw [Number.beq_zero_eq_false hform]
    exact iff_of_false Bool.false_ne_true hn.ne'

theorem isFinite_div_ofCount {x : Float} {n : Nat} (hx : x.isFinite = false) (hn : 0 < n) :
    (x / ofCount n).isFinite = false := by
  obtain ⟨m, e, hm, hform⟩ := exists_form_ofCount hn
  exact Number.isFinite_div hx hform

end Function

end Worksheet
