import Worksheet.Proofs.Number.Binary

/- Worksheet Rounding — how the results of arithmetic are brought to canonical form.

   A result comes as a mantissa, an exponent and what is known of the bits beyond. If
   the exponent is not above the one that is aimed at, rounding gives a canonical form
   of about the same magnitude (`roundWithAccuracy_rounded`), and a value that has a
   canonical form is left as it is (`roundWithAccuracy_exact`). Products, quotients and
   roots come with such exponents, so both carry over to them. -/
namespace Worksheet.Number

open Float.Model (Format UnpackedFloat totalExponent)
open Float.Model.UnpackedFloat

/-! ## Lengths and magnitudes -/

theorem log2_mul_two_pow {m : Nat} (hm : 0 < m) (k : Nat) : (m * 2 ^ k).log2 = m.log2 + k := by
  rw [Nat.log2_eq_iff (by positivity)]
  constructor
  · rw [pow_add]
    exact Nat.mul_le_mul_right _ (Nat.log2_self_le hm.ne')
  · rw [show m.log2 + k + 1 = (m.log2 + 1) + k by omega, pow_add]
    exact Nat.mul_lt_mul_of_pos_right Nat.lt_log2_self (by positivity)

theorem log2_le_log2 {m n : Nat} (hm : 0 < m) (h : m ≤ n) : m.log2 ≤ n.log2 :=
  (Nat.le_log2 (by omega)).mpr ((Nat.log2_self_le hm.ne').trans h)

theorem log2_mul {m n : Nat} (hm : 0 < m) (hn : 0 < n) :
    m.log2 + n.log2 ≤ (m * n).log2 ∧ (m * n).log2 ≤ m.log2 + n.log2 + 1 := by
  constructor
  · rw [Nat.le_log2 (by positivity), pow_add]
    exact Nat.mul_le_mul (Nat.log2_self_le hm.ne') (Nat.log2_self_le hn.ne')
  · rw [← Nat.lt_succ_iff, Nat.log2_lt (by positivity)]
    refine (Nat.mul_lt_mul'' (Nat.lt_log2_self (n := m)) (Nat.lt_log2_self (n := n))).trans_eq ?_
    rw [← pow_add]
    congr 1
    omega

theorem log2_div {m n : Nat} (hn : 0 < n) (h : n ≤ m) :
    (m / n).log2 + n.log2 ≤ m.log2 ∧ m.log2 ≤ (m / n).log2 + n.log2 + 1 := by
  have hpos : 0 < m / n := Nat.div_pos h hn
  constructor
  · exact (log2_mul hpos hn).1.trans
      (log2_le_log2 (Nat.mul_pos hpos hn) (Nat.div_mul_le_self m n))
  · rw [← Nat.lt_succ_iff, Nat.log2_lt (by omega)]
    calc m < (m / n + 1) * n := (Nat.div_lt_iff_lt_mul hn).mp (Nat.lt_succ_self _)
      _ ≤ 2 ^ ((m / n).log2 + 1) * 2 ^ (n.log2 + 1) :=
        Nat.mul_le_mul Nat.lt_log2_self Nat.lt_log2_self.le
      _ = 2 ^ ((m / n).log2 + n.log2 + 1).succ := by
        rw [← pow_add]
        congr 1
        omega

theorem two_zpow_le {m : Nat} (hm : 0 < m) (e : Int) :
    (2 : ℚ) ^ (totalExponent m e - 1) ≤ m * 2 ^ e := by
  have hlow : (2 : ℚ) ^ m.log2 ≤ m := by exact_mod_cast Nat.log2_self_le hm.ne'
  calc (2 : ℚ) ^ (totalExponent m e - 1) = 2 ^ (m.log2 : Int) * 2 ^ e := by
        rw [← zpow_add₀ two_ne_zero, totalExponent]
        congr 1
        omega
    _ ≤ m * 2 ^ e := by
        rw [zpow_natCast]
        gcongr

theorem lt_two_zpow (m : Nat) (e : Int) : (m : ℚ) * 2 ^ e < 2 ^ totalExponent m e := by
  have hhigh : (m : ℚ) < 2 ^ (m.log2 + 1) := by exact_mod_cast Nat.lt_log2_self
  calc (m : ℚ) * 2 ^ e < 2 ^ ((m.log2 + 1 : Nat) : Int) * 2 ^ e := by
        rw [zpow_natCast]
        gcongr
    _ = 2 ^ totalExponent m e := by
        rw [← zpow_add₀ two_ne_zero, totalExponent]
        congr 1

/-- A value with fewer binary places is a multiple. -/
theorem eq_mul_two_pow {m n : Nat} {e f : Int} (h : (n : ℚ) * 2 ^ f = m * 2 ^ e) (hfe : f ≤ e) :
    n = m * 2 ^ (e - f).toNat := by
  have hsplit : (2 : ℚ) ^ e = 2 ^ (e - f).toNat * 2 ^ f := by
    rw [← zpow_natCast, ← zpow_add₀ two_ne_zero]
    congr 1
    omega
  rw [hsplit, ← mul_assoc] at h
  exact_mod_cast mul_right_cancel₀ (zpow_ne_zero f two_ne_zero) h

theorem totalExponent_le {m n : Nat} {e f : Int} (hm : 0 < m)
    (h : (m : ℚ) * 2 ^ e ≤ n * 2 ^ f) : totalExponent m e ≤ totalExponent n f := by
  have hlt := ((two_zpow_le hm e).trans h).trans_lt (lt_two_zpow n f)
  have := (zpow_lt_zpow_iff_right₀ one_lt_two).mp hlt
  omega

/-! ## Shifting -/

theorem shift_succ (em : ExtendedMantissa) (k : Nat) :
    em >>> (k + 1) = (em >>> k).shiftRightOne := rfl

theorem mantissa_shift (em : ExtendedMantissa) (k : Nat) :
    (em >>> k).mantissa = em.mantissa / 2 ^ k := by
  induction k with
  | zero => exact (Nat.div_one _).symm
  | succ k ih =>
    rw [shift_succ, Nat.pow_succ, ← Nat.div_div_eq_div_mul, ← ih]
    rfl

theorem shift_exact (m k : Nat) :
    ExtendedMantissa.ofMantissaAndAccuracy (m * 2 ^ k) .exact >>> k = ⟨m, false, false⟩ := by
  induction k generalizing m with
  | zero =>
    rw [pow_zero, mul_one]
    rfl
  | succ k ih =>
    rw [shift_succ, pow_succ', ← mul_assoc, ih]
    simp [ExtendedMantissa.shiftRightOne]

/-- A mantissa that is short enough stays. -/
theorem shift_settled {m : Nat} {e : Int} (hm : m < 2 ^ 53) (he : -1074 ≤ e) :
    shiftToTargetExponent Format.binary64 m e .exact = (⟨m, false, false⟩, e) := by
  have hlog := log2_le_of_lt hm
  have hshift : (Format.binary64.targetExponent (totalExponent m e) - e).toNat = 0 := by
    rw [targetExponent_eq, totalExponent]
    omega
  rw [shiftToTargetExponent]
  simp only [shiftToExponent, hshift]
  refine Prod.ext rfl ?_
  simp

theorem shift_carry {e : Int} (he : -1074 ≤ e) :
    shiftToTargetExponent Format.binary64 (2 ^ 53) e .exact = (⟨2 ^ 52, false, false⟩, e + 1) := by
  have hshift : (Format.binary64.targetExponent (totalExponent (2 ^ 53) e) - e).toNat = 1 := by
    rw [targetExponent_eq, totalExponent, Nat.log2_two_pow]
    omega
  rw [shiftToTargetExponent]
  simp only [shiftToExponent, hshift]
  exact Prod.ext (shift_exact (2 ^ 52) 1) rfl

/-! ## Rounding -/

/-- Rounding shifts twice: to the right length, and once more if rounding up has added a
bit. -/
theorem roundWithAccuracy_eq (s : Sign) {m : Nat} {e e' e'' : Int} {a : Accuracy}
    {em em' : ExtendedMantissa} (h : shiftToTargetExponent Format.binary64 m e a = (em, e'))
    (h' : shiftToTargetExponent Format.binary64 em.roundedMantissa e' .exact = (em', e'')) :
    roundWithAccuracy Format.binary64 s m e a =
      if h : em'.mantissa = 0 then .zero s
      else .finite s em'.mantissa e'' (Nat.pos_of_ne_zero h) := by
  rw [roundWithAccuracy]
  simp only [h, h']

theorem roundWithAccuracy_exact (s : Sign) {m : Nat} {e : Int} (hm : 0 < m) (hc : Canonical m e)
    (k : Nat) :
    roundWithAccuracy Format.binary64 s (m * 2 ^ k) (e - k) .exact = .finite s m e hm := by
  have htarget : Format.binary64.targetExponent (totalExponent (m * 2 ^ k) (e - k)) = e := by
    rw [totalExponent, log2_mul_two_pow hm]
    refine (congrArg _ ?_).trans hc
    rw [totalExponent]
    push_cast
    omega
  have hfirst : shiftToTargetExponent Format.binary64 (m * 2 ^ k) (e - k) .exact =
      (⟨m, false, false⟩, e) := by
    rw [shiftToTargetExponent]
    simp only [htarget, shiftToExponent]
    rw [show (e - (e - (k : Int))).toNat = k by omega, shift_exact]
    exact Prod.ext rfl (by simp)
  rw [roundWithAccuracy_eq s hfirst (shift_settled (hc.lt_two_pow hm) (canonical_iff.mp hc).2.1)]
  exact dif_neg hm.ne'

/-- What rounding gives for a value below `2 ^ t`: a zero, or a canonical form whose exponent
leaves the value below `2 ^ (t + 1)`. -/
def Rounded (s : Sign) (t : Int) (u : UnpackedFloat) : Prop :=
  u = .zero s ∨ ∃ m e hm, u = .finite s m e hm ∧ Canonical m e ∧ e ≤ max (t - 52) 0

theorem Rounded.mono {s : Sign} {t t' : Int} {u : UnpackedFloat} (h : Rounded s t u)
    (ht : t ≤ max t' 52) : Rounded s t' u := by
  rcases h with h | ⟨m, e, hm, h, hc, he⟩
  · exact .inl h
  · exact .inr ⟨m, e, hm, h, hc, by omega⟩

theorem le_roundedMantissa (em : ExtendedMantissa) :
    em.mantissa ≤ em.roundedMantissa ∧ em.roundedMantissa ≤ em.mantissa + 1 := by
  rcases em with ⟨m, round, sticky⟩
  cases round <;> cases sticky <;>
    simp only [ExtendedMantissa.roundedMantissa, ExtendedMantissa.accuracy,
      Accuracy.roundToNearestEven] <;> omega

theorem mantissa_ofMantissaAndAccuracy (m : Nat) (a : Accuracy) :
    (ExtendedMantissa.ofMantissaAndAccuracy m a).mantissa = m := by
  cases a with
  | exact => rfl
  | inexact o => cases o <;> rfl

/-- The first shift leaves a mantissa that is short enough, and full unless the exponent is the
least. -/
theorem exists_shift {m : Nat} {e : Int} (a : Accuracy)
    (he : e ≤ Format.binary64.targetExponent (totalExponent m e)) :
    ∃ em : ExtendedMantissa, em.mantissa < 2 ^ 53 ∧
      (Format.binary64.targetExponent (totalExponent m e) = -1074 ∨ 2 ^ 52 ≤ em.mantissa) ∧
      shiftToTargetExponent Format.binary64 m e a =
        (em, Format.binary64.targetExponent (totalExponent m e)) := by
  generalize ht : Format.binary64.targetExponent (totalExponent m e) = t at he
  generalize hk : (t - e).toNat = k
  generalize hem : ExtendedMantissa.ofMantissaAndAccuracy m a >>> k = em
  have htarget : t = max (totalExponent m e - 53) (-1074) := ht.symm.trans (targetExponent_eq _)
  have htotal : totalExponent m e = m.log2 + 1 + e := rfl
  have hmantissa : em.mantissa = m / 2 ^ k := by
    rw [← hem, mantissa_shift, mantissa_ofMantissaAndAccuracy]
  refine ⟨em, ?_, ?_, ?_⟩
  · rw [hmantissa, Nat.div_lt_iff_lt_mul (by positivity), ← pow_add]
    exact lt_of_lt_of_le Nat.lt_log2_self (Nat.pow_le_pow_right (by decide) (by omega))
  · rcases eq_or_ne t (-1074) with hmin | hmin
    · exact .inl hmin
    · right
      have hm : m ≠ 0 := by
        rintro rfl
        rw [Nat.log2_zero] at htotal
        omega
      rw [hmantissa, Nat.le_div_iff_mul_le (by positivity), ← pow_add,
        show 52 + k = m.log2 by omega]
      exact Nat.log2_self_le hm
  · rw [shiftToTargetExponent]
    simp only [ht, shiftToExponent, hk, hem]
    exact Prod.ext rfl (show e + (k : Int) = t by omega)

theorem roundWithAccuracy_rounded (s : Sign) {m : Nat} {e : Int} (a : Accuracy)
    (he : e ≤ Format.binary64.targetExponent (totalExponent m e)) :
    Rounded s (totalExponent m e) (roundWithAccuracy Format.binary64 s m e a) := by
  obtain ⟨em, hupper, hlower, hfirst⟩ := exists_shift a he
  generalize ht : Format.binary64.targetExponent (totalExponent m e) = t at hfirst hlower
  have htarget : t = max (totalExponent m e - 53) (-1074) := ht.symm.trans (targetExponent_eq _)
  obtain ⟨hle, hsucc⟩ := le_roundedMantissa em
  have hmin : -1074 ≤ t := by omega
  rcases lt_or_eq_of_le (show em.roundedMantissa ≤ 2 ^ 53 by omega) with hr | hr
  · rw [roundWithAccuracy_eq s hfirst (shift_settled hr hmin)]
    split
    · exact .inl rfl
    · rename_i hzero
      refine .inr ⟨_, t, Nat.pos_of_ne_zero hzero, rfl, ?_, by omega⟩
      rcases hlower with rfl | hlow
      · rcases lt_or_ge em.roundedMantissa (2 ^ 52) with hsmall | hlarge
        · exact .of_subnormal hsmall
        · exact .of_normal hlarge hr le_rfl
      · exact .of_normal (hlow.trans hle) hr hmin
  · have hcarry := shift_carry hmin
    rw [← hr] at hcarry
    rw [roundWithAccuracy_eq s hfirst hcarry]
    exact .inr ⟨2 ^ 52, t + 1, by decide, rfl, .of_normal le_rfl (by decide) (by omega), by omega⟩

/-- A value that is not among the least is not rounded to zero. -/
theorem roundWithAccuracy_ne_zero (s : Sign) {m : Nat} {e : Int} (a : Accuracy)
    (he : e ≤ Format.binary64.targetExponent (totalExponent m e))
    (hmin : -1021 < totalExponent m e) :
    ∀ s', roundWithAccuracy Format.binary64 s m e a ≠ .zero s' := by
  obtain ⟨em, hupper, hlower, hfirst⟩ := exists_shift a he
  generalize ht : Format.binary64.targetExponent (totalExponent m e) = t at hfirst hlower
  have htarget : t = max (totalExponent m e - 53) (-1074) := ht.symm.trans (targetExponent_eq _)
  obtain ⟨hle, hsucc⟩ := le_roundedMantissa em
  have hlow : 2 ^ 52 ≤ em.mantissa := hlower.resolve_left (by omega)
  rcases lt_or_eq_of_le (show em.roundedMantissa ≤ 2 ^ 53 by omega) with hr | hr
  · rw [roundWithAccuracy_eq s hfirst (shift_settled hr (by omega)),
      dif_neg (show em.roundedMantissa ≠ 0 by omega)]
    exact nofun
  · have hcarry := shift_carry (e := t) (by omega)
    rw [← hr] at hcarry
    rw [roundWithAccuracy_eq s hfirst hcarry]
    exact nofun

/-! ## Products, quotients and roots -/

section

variable {s₁ s₂ : Sign} {m₁ m₂ : Nat} {e₁ e₂ : Int} (h₁ : 0 < m₁) (h₂ : 0 < m₂)

theorem mul_rounded (hlog : 52 ≤ m₁.log2 + m₂.log2) :
    Rounded (s₁ * s₂) (totalExponent (m₁ * m₂) (e₁ + e₂))
      (mul Format.binary64 (.finite s₁ m₁ e₁ h₁) (.finite s₂ m₂ e₂ h₂)) := by
  refine roundWithAccuracy_rounded _ _ ?_
  have := (log2_mul h₁ h₂).1
  rw [targetExponent_eq, totalExponent]
  omega

/-- A product that is not among the least values is not rounded to zero. -/
theorem product_ne_zero (hlog : 52 ≤ m₁.log2 + m₂.log2)
    (hmin : -1021 < totalExponent (m₁ * m₂) (e₁ + e₂)) (s : Sign) :
    mul Format.binary64 (.finite s₁ m₁ e₁ h₁) (.finite s₂ m₂ e₂ h₂) ≠ .zero s := by
  refine roundWithAccuracy_ne_zero _ _ ?_ hmin s
  have := (log2_mul h₁ h₂).1
  rw [targetExponent_eq, totalExponent]
  omega

theorem mul_exact {m : Nat} {e : Int} (hm : 0 < m) (hc : Canonical m e)
    (hlog : 52 ≤ m₁.log2 + m₂.log2) (h : (m₁ : ℚ) * 2 ^ e₁ * (m₂ * 2 ^ e₂) = m * 2 ^ e) :
    mul Format.binary64 (.finite s₁ m₁ e₁ h₁) (.finite s₂ m₂ e₂ h₂) =
      .finite (s₁ * s₂) m e hm := by
  have hvalue : ((m₁ * m₂ : Nat) : ℚ) * 2 ^ (e₁ + e₂) = m * 2 ^ e := by
    rw [← h, zpow_add₀ two_ne_zero]
    push_cast
    ring
  have hle : e₁ + e₂ ≤ e := by
    have htotal := totalExponent_le (Nat.mul_pos h₁ h₂) hvalue.le
    have htarget := hc.symm.trans (targetExponent_eq _)
    have := (log2_mul h₁ h₂).1
    rw [totalExponent] at htotal
    omega
  have hround := roundWithAccuracy_exact (s₁ * s₂) hm hc (e - (e₁ + e₂)).toNat
  rwa [← eq_mul_two_pow hvalue hle,
    show e - ((e - (e₁ + e₂)).toNat : Int) = e₁ + e₂ by omega] at hround

theorem div_eq :
    div Format.binary64 (.finite s₁ m₁ e₁ h₁) (.finite s₂ m₂ e₂ h₂) =
      roundWithAccuracy Format.binary64 (s₁ / s₂) (divCore Format.binary64 m₁ e₁ m₂ e₂).1
        (divCore Format.binary64 m₁ e₁ m₂ e₂).2.1 (divCore Format.binary64 m₁ e₁ m₂ e₂).2.2 := rfl

theorem div_rounded :
    Rounded (s₁ / s₂) (totalExponent m₁ e₁ - totalExponent m₂ e₂ + 1)
      (div Format.binary64 (.finite s₁ m₁ e₁ h₁) (.finite s₂ m₂ e₂ h₂)) := by
  generalize htarget : min (e₁ - e₂) (Format.binary64.targetExponent
    (totalExponent m₁ e₁ - totalExponent m₂ e₂)) = target
  generalize hshift : (e₁ - e₂ - target).toNat = k
  have hcore : divCore Format.binary64 m₁ e₁ m₂ e₂ =
      (m₁ * 2 ^ k / m₂, target, accuracyOfFraction (m₁ * 2 ^ k % m₂) m₂) := by
    rw [divCore]
    simp only [htarget, hshift, Nat.shiftLeft_eq]
  have hlog : (m₁ * 2 ^ k).log2 = m₁.log2 + k := log2_mul_two_pow h₁ k
  rw [targetExponent_eq, totalExponent, totalExponent] at htarget
  rw [div_eq, hcore]
  change Rounded _ _ (roundWithAccuracy _ _ (m₁ * 2 ^ k / m₂) target _)
  rcases Nat.lt_or_ge (m₁ * 2 ^ k) m₂ with hlt | hge
  · have hle : m₁.log2 + k ≤ m₂.log2 := hlog ▸ log2_le_log2 (by positivity) hlt.le
    refine (roundWithAccuracy_rounded _ _ ?_).mono ?_
    · rw [targetExponent_eq, totalExponent, Nat.div_eq_of_lt hlt, Nat.log2_zero]
      omega
    · rw [totalExponent, Nat.div_eq_of_lt hlt, Nat.log2_zero]
      omega
  · have hquotient := log2_div h₂ hge
    refine (roundWithAccuracy_rounded _ _ ?_).mono ?_
    · rw [targetExponent_eq, totalExponent]
      omega
    · rw [totalExponent, totalExponent, totalExponent]
      omega

theorem div_exact {m : Nat} {e : Int} (hm : 0 < m) (hc : Canonical m e)
    (h : (m₁ : ℚ) * 2 ^ e₁ = m * 2 ^ e * (m₂ * 2 ^ e₂)) :
    div Format.binary64 (.finite s₁ m₁ e₁ h₁) (.finite s₂ m₂ e₂ h₂) =
      .finite (s₁ / s₂) m e hm := by
  -- the quotient has at least the length that is aimed at, so its exponent is not below
  have htotal : totalExponent m₁ e₁ - totalExponent m₂ e₂ ≤ totalExponent m e := by
    have hlt : (2 : ℚ) ^ (totalExponent m₁ e₁ - 1) <
        2 ^ (totalExponent m e + totalExponent m₂ e₂) := by
      rw [zpow_add₀ two_ne_zero]
      refine ((two_zpow_le h₁ e₁).trans_eq h).trans_lt ?_
      have := lt_two_zpow m e
      have := lt_two_zpow m₂ e₂
      gcongr
    have := (zpow_lt_zpow_iff_right₀ one_lt_two).mp hlt
    omega
  generalize htarget : min (e₁ - e₂) (Format.binary64.targetExponent
    (totalExponent m₁ e₁ - totalExponent m₂ e₂)) = target
  have hle : target ≤ e := by
    rw [targetExponent_eq] at htarget
    have := hc.symm.trans (targetExponent_eq _)
    omega
  have hshifted : m₁ * 2 ^ (e₁ - e₂ - target).toNat = m * 2 ^ (e - target).toNat * m₂ := by
    have hsplit : (2 : ℚ) ^ e₁ = 2 ^ (e₁ - e₂ - target).toNat * 2 ^ target * 2 ^ e₂ := by
      rw [← zpow_natCast, ← zpow_add₀ two_ne_zero, ← zpow_add₀ two_ne_zero]
      congr 1
      omega
    rw [Nat.mul_right_comm]
    refine eq_mul_two_pow (mul_right_cancel₀ (zpow_ne_zero e₂ two_ne_zero)
      (Eq.trans ?_ (h.trans ?_))) hle
    · rw [hsplit]
      push_cast
      ring
    · push_cast
      ring
  have hcore : divCore Format.binary64 m₁ e₁ m₂ e₂ =
      (m * 2 ^ (e - target).toNat, target, .exact) := by
    rw [divCore]
    simp only [htarget, Nat.shiftLeft_eq, hshifted, Nat.mul_div_cancel _ h₂, Nat.mul_mod_left,
      accuracyOfFraction, if_pos]
  rw [div_eq, hcore]
  have hround := roundWithAccuracy_exact (s₁ / s₂) hm hc (e - target).toNat
  rwa [show e - ((e - target).toNat : Int) = target by omega] at hround

end

/-- The square root of a number is far below the greatest number. -/
theorem sqrt_rounded {m : Nat} {e : Int} (hm : 0 < m) (hc : Canonical m e) (he : e ≤ 971) :
    Rounded .positive 1023 (sqrt Format.binary64 (.finite .positive m e hm)) := by
  generalize htarget : min (e / 2) (Format.binary64.targetExponent
    ((totalExponent m e + 1) / 2)) = target
  generalize hshift : (e - 2 * target).toNat = k
  generalize hr : Nat.sqrt (m * 2 ^ k) = root
  have hcore : (sqrtCore Format.binary64 m e).1 = root ∧
      (sqrtCore Format.binary64 m e).2.1 = target := by
    rw [← hr, ← hshift, ← htarget, ← Nat.shiftLeft_eq]
    exact ⟨rfl, rfl⟩
  have hsqrt : sqrt Format.binary64 (.finite .positive m e hm) =
      roundWithAccuracy Format.binary64 .positive (sqrtCore Format.binary64 m e).1
        (sqrtCore Format.binary64 m e).2.1 (sqrtCore Format.binary64 m e).2.2 := rfl
  rw [hsqrt, hcore.1, hcore.2]
  have hroot : 0 < root := hr ▸ Nat.sqrt_pos.mpr (by positivity)
  have hlog : (m * 2 ^ k).log2 = m.log2 + k := log2_mul_two_pow hm k
  have hlow : root.log2 + root.log2 ≤ (m * 2 ^ k).log2 :=
    (log2_mul hroot hroot).1.trans (log2_le_log2 (Nat.mul_pos hroot hroot) (hr ▸ Nat.sqrt_le _))
  have hhigh : (m * 2 ^ k).log2 < root.log2 + root.log2 + 2 := by
    rw [Nat.log2_lt (by positivity)]
    calc m * 2 ^ k < (root + 1) * (root + 1) := hr ▸ Nat.lt_succ_sqrt _
      _ ≤ 2 ^ (root.log2 + 1) * 2 ^ (root.log2 + 1) :=
        Nat.mul_le_mul Nat.lt_log2_self Nat.lt_log2_self
      _ = 2 ^ (root.log2 + root.log2 + 2) := by
        rw [← pow_add]
        congr 1
        omega
  have hcanonical := canonical_iff.mp hc
  rw [targetExponent_eq, totalExponent] at htarget
  refine (roundWithAccuracy_rounded _ _ ?_).mono ?_
  · rw [targetExponent_eq, totalExponent]
    omega
  · rw [totalExponent]
    omega

end Worksheet.Number
