import Worksheet.Proofs.Number.Rounding

/- Worksheet Scientific Notation — the number that digits and a power of ten give.

   A number is read as the product of its digits and a power of ten, or as their
   quotient: of numbers where both are exact, and of integers of any length otherwise.
   Either way the result is the value rounded once (`ofScientific_rounds`), so digits
   that have the value of a number give that number (`ofScientific_exact`). -/
namespace Worksheet.Number

open Float.Model (Format UnpackedFloat totalExponent)
open Float.Model.UnpackedFloat

/-! ## Rounding a value -/

/-- What is needed of the form that a positive value is rounded to: it is a zero or canonical,
it is not much greater, and it is exact where it can be. -/
structure Rounds (v : ℚ) (u : UnpackedFloat) : Prop where
  shape : u = .zero .positive ∨
    ∃ m e hm, u = .finite .positive m e hm ∧ Canonical m e ∧ (e ≤ 0 ∨ (2 : ℚ) ^ (e + 50) ≤ v)
  exact : ∀ m e hm, Canonical m e → v = m * 2 ^ e → u = .finite .positive m e hm

theorem Rounded.shape {t : Int} {v : ℚ} {u : UnpackedFloat} (h : Rounded .positive t u)
    (hv : (2 : ℚ) ^ (t - 2) ≤ v) :
    u = .zero .positive ∨
      ∃ m e hm, u = .finite .positive m e hm ∧ Canonical m e ∧
        (e ≤ 0 ∨ (2 : ℚ) ^ (e + 50) ≤ v) := by
  refine h.imp_right fun ⟨m, e, hm, hu, hc, he⟩ => ⟨m, e, hm, hu, hc, ?_⟩
  rcases le_or_gt e 0 with hneg | hpos
  · exact .inl hneg
  · exact .inr ((zpow_le_zpow_right₀ one_le_two (by omega)).trans hv)

theorem rounds_mul {m₁ m₂ : Nat} {e₁ e₂ : Int} (h₁ : 0 < m₁) (h₂ : 0 < m₂)
    (hlog : 52 ≤ m₁.log2 + m₂.log2) :
    Rounds (m₁ * 2 ^ e₁ * (m₂ * 2 ^ e₂))
      (mul Format.binary64 (.finite .positive m₁ e₁ h₁) (.finite .positive m₂ e₂ h₂)) where
  shape := by
    have hround : Rounded .positive (totalExponent (m₁ * m₂) (e₁ + e₂)) (mul Format.binary64
        (.finite .positive m₁ e₁ h₁) (.finite .positive m₂ e₂ h₂)) := mul_rounded h₁ h₂ hlog
    refine hround.shape ?_
    have hle := two_zpow_le (Nat.mul_pos h₁ h₂) (e₁ + e₂)
    have hvalue : ((m₁ * m₂ : Nat) : ℚ) * 2 ^ (e₁ + e₂) = m₁ * 2 ^ e₁ * (m₂ * 2 ^ e₂) := by
      rw [zpow_add₀ two_ne_zero]
      push_cast
      ring
    exact (zpow_le_zpow_right₀ one_le_two (by omega)).trans (hle.trans_eq hvalue)
  exact m e hm hc h := mul_exact h₁ h₂ hm hc hlog h

theorem rounds_div {m₁ m₂ : Nat} {e₁ e₂ : Int} (h₁ : 0 < m₁) (h₂ : 0 < m₂) :
    Rounds (m₁ * 2 ^ e₁ / (m₂ * 2 ^ e₂))
      (div Format.binary64 (.finite .positive m₁ e₁ h₁) (.finite .positive m₂ e₂ h₂)) where
  shape := by
    have hround : Rounded .positive (totalExponent m₁ e₁ - totalExponent m₂ e₂ + 1)
        (div Format.binary64 (.finite .positive m₁ e₁ h₁) (.finite .positive m₂ e₂ h₂)) :=
      div_rounded h₁ h₂
    refine hround.shape ?_
    rw [le_div_iff₀ (by positivity)]
    calc (2 : ℚ) ^ (totalExponent m₁ e₁ - totalExponent m₂ e₂ + 1 - 2) * (m₂ * 2 ^ e₂)
        ≤ 2 ^ (totalExponent m₁ e₁ - totalExponent m₂ e₂ + 1 - 2) * 2 ^ totalExponent m₂ e₂ := by
          gcongr
          exact (lt_two_zpow m₂ e₂).le
      _ = 2 ^ (totalExponent m₁ e₁ - 1) := by
          rw [← zpow_add₀ two_ne_zero]
          congr 1
          omega
      _ ≤ m₁ * 2 ^ e₁ := two_zpow_le h₁ e₁
  exact m e hm hc h := div_exact h₁ h₂ hm hc ((div_eq_iff (by positivity)).mp h)

/-- A value below all numbers is rounded to zero. -/
theorem rounds_zero {v : ℚ} (hv : v < 2 ^ (-1074 : Int)) : Rounds v (.zero .positive) where
  shape := .inl rfl
  exact m e hm hc h := by
    have hmin := (canonical_iff.mp hc).2.1
    have hlow : (2 : ℚ) ^ (-1074 : Int) ≤ m * 2 ^ e := by
      refine (zpow_le_zpow_right₀ one_le_two hmin).trans ?_
      exact le_mul_of_one_le_left (by positivity) (by exact_mod_cast hm)
    exact absurd (h ▸ hlow) (not_le.mpr hv)

theorem Rounds.isFinite {v : ℚ} {u : UnpackedFloat} (h : Rounds v u)
    (hv : v < 2 ^ (1022 : Int)) : (ofForm u).isFinite = true := by
  rcases h.shape with rfl | ⟨m, e, hm, rfl, hc, he⟩
  · exact congrArg UnpackedFloat.isFinite (unpack_ofForm_zero .positive)
  · have hle : e ≤ 971 := by
      rcases he with he | he
      · omega
      · have := (zpow_lt_zpow_iff_right₀ one_lt_two).mp (he.trans_lt hv)
        omega
    exact congrArg UnpackedFloat.isFinite (unpack_ofForm hc hle)

/-! ## Integers of any length -/

theorem ten_zpow_le_two_zpow {e : Int} (he : e ≤ 0) : (10 : ℚ) ^ e ≤ 2 ^ e := by
  have hpow : (2 : ℚ) ^ (-e) ≤ 10 ^ (-e) :=
    zpow_le_zpow_left₀ (by omega) (by norm_num) (by norm_num)
  have hinv := inv_anti₀ (by positivity) hpow
  rwa [← zpow_neg, ← zpow_neg, neg_neg] at hinv

/-- The value as a product of two mantissas, the first with all its bits in front. -/
theorem value_mul_ten (m : Nat) {e : Int} (he : 0 ≤ e) :
    ((m <<< 53 : Nat) : ℚ) * 2 ^ (-53 : Int) * (((10 ^ e.toNat : Nat) : ℚ) * 2 ^ (0 : Int)) =
      m * 10 ^ e := by
  have hcancel : (2 : ℚ) ^ 53 * 2 ^ (-53 : Int) = 1 := by norm_num
  rw [Nat.shiftLeft_eq, zpow_zero, mul_one, Nat.cast_mul, Nat.cast_pow, Nat.cast_pow,
    Nat.cast_ofNat, Nat.cast_ofNat, mul_assoc (m : ℚ), hcancel, mul_one, ← zpow_natCast,
    show (e.toNat : Int) = e by omega]

/-- The value as a quotient of two mantissas. -/
theorem value_div_ten (m : Nat) {e : Int} (he : e < 0) :
    (m : ℚ) * 2 ^ (0 : Int) / (((10 ^ (-e).toNat : Nat) : ℚ) * 2 ^ (0 : Int)) = m * 10 ^ e := by
  rw [zpow_zero, mul_one, mul_one]
  push_cast
  rw [← zpow_natCast, show ((-e).toNat : Int) = -e by omega, zpow_neg, div_inv_eq_mul]

theorem rounds_ofScientific {m : Nat} (hm : 0 < m) (e : Int) :
    Rounds (m * 10 ^ e) (UnpackedFloat.ofScientific Format.binary64 m e) ∨
      UnpackedFloat.ofScientific Format.binary64 m e = .infinity .positive ∧
        (2 : ℚ) ^ (1024 : Int) ≤ m * 10 ^ e := by
  rw [UnpackedFloat.ofScientific, dif_neg hm.ne']
  have hone : (1 : ℚ) ≤ m := by exact_mod_cast hm
  split
  · rename_i hlarge
    change e > 2048 at hlarge
    right
    refine ⟨rfl, ?_⟩
    calc (2 : ℚ) ^ (1024 : Int) ≤ 2 ^ e := zpow_le_zpow_right₀ one_le_two (by omega)
      _ ≤ 10 ^ e := zpow_le_zpow_left₀ (by omega) (by norm_num) (by norm_num)
      _ ≤ m * 10 ^ e := le_mul_of_one_le_left (by positivity) hone
  split
  · rename_i hsmall
    change e < -(2048 + (m.log2 : Int)) at hsmall
    left
    refine rounds_zero ?_
    calc (m : ℚ) * 10 ^ e ≤ m * 2 ^ e :=
          mul_le_mul_of_nonneg_left (ten_zpow_le_two_zpow (by omega)) (by positivity)
      _ < 2 ^ totalExponent m e := lt_two_zpow m e
      _ ≤ 2 ^ (-1074 : Int) := zpow_le_zpow_right₀ one_le_two (by rw [totalExponent]; omega)
  split
  · rename_i hnonneg
    left
    have hlog : 53 ≤ (m <<< 53 : Nat).log2 := by
      rw [Nat.shiftLeft_eq, log2_mul_two_pow hm]
      omega
    rw [← value_mul_ten m (by omega)]
    exact rounds_mul _ _ (by omega)
  · rename_i hneg
    left
    rw [← value_div_ten m (by omega)]
    exact rounds_div _ _

/-! ## Exact operands -/

/-- Whether a form has a full mantissa and is a power of ten. -/
def isPowerOfTen (k : Nat) : UnpackedFloat → Bool
  | .finite .positive m e _ =>
    m.log2 = 52 && -52 ≤ e && m * 2 ^ (e + 52).toNat = 10 ^ k * 2 ^ 52
  | _ => false

theorem isPowerOfTen_table : ∀ k : Fin 23, isPowerOfTen k
    (getElem Float.exactlyRepresentablePowersOfTen k.1 k.2).toModel.unpack = true := by
  decide +kernel

/-- A number has a form with a full mantissa and this value. -/
def Full (x : Float) (v : ℚ) : Prop :=
  ∃ m e hm, x.toModel.unpack = .finite .positive m e hm ∧ m.log2 = 52 ∧ (m : ℚ) * 2 ^ e = v

theorem full_powerOfTen {k : Nat} (hk : k < 23) :
    Full (getElem Float.exactlyRepresentablePowersOfTen k hk) (10 ^ k) := by
  have h := isPowerOfTen_table ⟨k, hk⟩
  unfold isPowerOfTen at h
  split at h
  · rename_i m e hm hform
    simp only [Bool.and_eq_true, decide_eq_true_eq] at h
    obtain ⟨⟨hlog, he⟩, hvalue⟩ := h
    refine ⟨m, e, hm, hform, hlog, ?_⟩
    have hcast : (m : ℚ) * 2 ^ (e + 52).toNat = 10 ^ k * 2 ^ 52 := by exact_mod_cast hvalue
    rw [← zpow_natCast, show ((e + 52).toNat : Int) = e + 52 by omega, zpow_add₀ two_ne_zero,
      ← mul_assoc] at hcast
    exact mul_right_cancel₀ (zpow_ne_zero 52 two_ne_zero) hcast
  · exact nomatch h

theorem full_toFloat {n : Nat} (hn : 0 < n) (hlt : n < 2 ^ 53) : Full n.toUInt64.toFloat n := by
  have hlog : n.log2 ≤ 52 := log2_le_of_lt hlt
  have hnat : n.toUInt64.toNat = n := UInt64.toNat_ofNat_of_lt' (hlt.trans (by decide))
  have hcompare : compare (n : Int) 0 = .gt := Int.compare_eq_gt.mpr (by omega)
  generalize hk : 52 - n.log2 = k
  have hmlog : (n * 2 ^ k).log2 = 52 := by
    rw [log2_mul_two_pow hn]
    omega
  have hc : Canonical (n * 2 ^ k) (-k) := canonical_iff.mpr ⟨hmlog.le, by omega, .inl hmlog⟩
  have hround : UnpackedFloat.ofUInt64 Format.binary64 n.toUInt64 =
      .finite .positive (n * 2 ^ k) (-k) (by positivity) := by
    have hexact := roundWithAccuracy_exact .positive (by positivity) hc 0
    have htarget : Format.binary64.targetExponent (totalExponent n 0) = -(k : Int) := by
      rw [targetExponent_eq, totalExponent]
      omega
    rw [UnpackedFloat.ofUInt64, UnpackedFloat.ofNat, UnpackedFloat.ofInt, UnpackedFloat.normalize,
      hnat, hcompare]
    simp only [UnpackedFloat.round, Int.toNat_natCast, htarget, decreaseExponent]
    rw [show (0 - -(k : Int)).toNat = k by omega, Nat.shiftLeft_eq, zero_sub]
    simpa using hexact
  refine ⟨_, _, _, (congrArg (fun u => (ofForm u).toModel.unpack) hround).trans
    (unpack_ofForm hc (by omega)), hmlog, ?_⟩
  rw [zpow_neg, zpow_natCast]
  push_cast
  rw [mul_inv_cancel_right₀ (by positivity)]

/-- The exponent that a sign and a natural number stand for. -/
def signedExponent (negative : Bool) (k : Nat) : Int := if negative then -k else k

theorem ofScientific_rounds {m : Nat} (hm : 0 < m) (s : Bool) (k : Nat) :
    ∃ u, Float.ofScientific m s k = ofForm u ∧
      (Rounds (m * 10 ^ signedExponent s k) u ∨
        u = .infinity .positive ∧ (2 : ℚ) ^ (1024 : Int) ≤ m * 10 ^ signedExponent s k) := by
  rw [Float.ofScientific]
  split
  · rename_i h
    obtain ⟨m₁, e₁, h₁, hform₁, hlog₁, hvalue₁⟩ := full_toFloat hm h.1
    obtain ⟨m₂, e₂, h₂, hform₂, hlog₂, hvalue₂⟩ := full_powerOfTen (Nat.lt_succ_of_le h.2)
    cases s with
    | true =>
      have hrounds := @rounds_div m₁ m₂ e₁ e₂ h₁ h₂
      rw [hvalue₁, hvalue₂, ← zpow_natCast, ← inv_mul_eq_div, mul_comm, ← zpow_neg, ← hform₁,
        ← hform₂] at hrounds
      exact ⟨_, rfl, .inl hrounds⟩
    | false =>
      have hrounds := @rounds_mul m₁ m₂ e₁ e₂ h₁ h₂ (by omega)
      rw [hvalue₁, hvalue₂, ← zpow_natCast, ← hform₁, ← hform₂] at hrounds
      exact ⟨_, rfl, .inl hrounds⟩
  · cases s with
    | true => exact ⟨_, rfl, rounds_ofScientific hm (-(k : Int))⟩
    | false => exact ⟨_, rfl, rounds_ofScientific hm k⟩

/-! ## Reading digits -/

theorem ofScientific_zero (s : Bool) (k : Nat) :
    Float.ofScientific 0 s k = ofForm (.zero .positive) := by
  rw [Float.ofScientific]
  split
  · rename_i h
    obtain ⟨m, e, hm, hform, -, -⟩ := full_powerOfTen (Nat.lt_succ_of_le h.2)
    have hzero : (0 : Nat).toUInt64.toFloat.toModel.unpack = .zero .positive :=
      unpack_ofForm_zero .positive
    cases s with
    | true => exact congrArg₂ (fun u v => ofForm (div Format.binary64 u v)) hzero hform
    | false => exact congrArg₂ (fun u v => ofForm (mul Format.binary64 u v)) hzero hform
  · cases s with
    | true => rfl
    | false => rfl

theorem isFinite_ofNat {n : Nat} (h : n < 2 ^ 1022) : (Float.ofNat n).isFinite = true := by
  rcases Nat.eq_zero_or_pos n with rfl | hn
  · decide +kernel
  · have hv : (n : ℚ) * 10 ^ signedExponent false 0 < 2 ^ (1022 : Int) := by
      have hcast : (n : ℚ) < 2 ^ 1022 := by exact_mod_cast h
      simpa [signedExponent] using hcast
    obtain ⟨u, hu, h | ⟨-, h⟩⟩ := ofScientific_rounds hn false 0
    · rw [Float.ofNat, OfScientific.ofScientific, instOfScientificFloat]
      simp only [hu]
      exact h.isFinite hv
    · exact absurd (h.trans_lt hv) (not_lt.mpr (zpow_le_zpow_right₀ one_le_two (by decide)))

/-- Digits with the value of a number give that number. -/
theorem ofScientific_exact {m k : Nat} {s : Bool} {n : Nat} {e : Int} (hn : 0 < n)
    (hc : Canonical n e) (he : e ≤ 971)
    (h : (m : ℚ) * 10 ^ signedExponent s k = n * 2 ^ e) :
    Float.ofScientific m s k = ofForm (.finite .positive n e hn) := by
  have hpos : (0 : ℚ) < n * 2 ^ e := by positivity
  have hm : 0 < m := by
    rcases Nat.eq_zero_or_pos m with rfl | hm
    · rw [Nat.cast_zero, zero_mul] at h
      exact absurd h hpos.ne
    · exact hm
  have hlt : (n : ℚ) * 2 ^ e < 2 ^ (1024 : Int) := by
    refine (lt_two_zpow n e).trans_le (zpow_le_zpow_right₀ one_le_two ?_)
    have := canonical_iff.mp hc
    rw [totalExponent]
    omega
  obtain ⟨u, hu, hr | ⟨-, hr⟩⟩ := ofScientific_rounds hm s k
  · rw [hu, hr.exact n e hn hc h]
  · exact absurd hlt (not_lt.mpr (h ▸ hr))

end Worksheet.Number
