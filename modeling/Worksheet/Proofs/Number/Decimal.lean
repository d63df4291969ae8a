import Worksheet.Number.Decimal
import Worksheet.Proofs.Number.Scientific

/- Worksheet Decimal Theory — decimals stand for their values.

   Decimals of one value are read as the same number (`Decimal.toFloat_congr`) and have
   their first digit at the same place, whatever zeros they carry; so a number can be
   laid out in any way that keeps the value. The decimal that is written for a number is
   read back as that number (`Decimal.shortest_spec`). -/
namespace Worksheet

open Worksheet.Number
open Float.Model (totalExponent)

/-! ## Digits -/

theorem lt_pow_digitCount (n : Nat) : n < 10 ^ digitCount n :=
  (Nat.length_toDigits_le_iff (by decide) Nat.length_toDigits_pos).mp le_rfl

theorem pow_digitCount_le {n : Nat} (hn : 0 < n) : 10 ^ (digitCount n - 1) ≤ n := by
  rcases Nat.eq_zero_or_pos (digitCount n - 1) with h | h
  · rw [h]
    exact hn
  · have := mt (Nat.length_toDigits_le_iff (b := 10) (n := n) (by decide) h).mpr
    rw [← digitCount] at this
    omega

/-! ## Values -/

attribute [ext] Decimal

namespace Decimal

/-- The value of a decimal. -/
def value (d : Decimal) : ℚ := d.digits * 10 ^ d.exponent

theorem value_trim (d : Decimal) : d.trim.value = d.value := by
  fun_induction trim d with
  | case1 d h ih =>
    rw [ih, value, value]
    have hdigits : (d.digits : ℚ) = (d.digits / 10 : Nat) * 10 := by
      exact_mod_cast (Nat.div_mul_cancel (Nat.dvd_of_mod_eq_zero h.2)).symm
    rw [zpow_add_one₀ (by norm_num), hdigits]
    ring
  | case2 d h => rfl

theorem digits_trim {d : Decimal} (hd : d.digits ≠ 0) : d.trim.digits % 10 ≠ 0 := by
  fun_induction trim d with
  | case1 d h ih =>
    refine ih ?_
    change d.digits / 10 ≠ 0
    omega
  | case2 d h => exact fun h0 => h ⟨hd, h0⟩

theorem value_ne_zero_iff {d : Decimal} : d.value ≠ 0 ↔ d.digits ≠ 0 := by
  rw [value]
  have : (10 : ℚ) ^ d.exponent ≠ 0 := zpow_ne_zero _ (by norm_num)
  simp [this]

/-- Decimals of one value have digits other than zero or none of them has. -/
theorem digits_ne_zero_congr {d d' : Decimal} (h : d.value = d'.value) :
    d.digits ≠ 0 ↔ d'.digits ≠ 0 := by
  rw [← value_ne_zero_iff, h, value_ne_zero_iff]

/-- Of decimals of one value, one without trailing zeros has the greatest exponent. -/
theorem exponent_le {d d' : Decimal} (h : d.value = d'.value) (hd : d.digits % 10 ≠ 0) :
    d'.exponent ≤ d.exponent := by
  by_contra hlt
  have hsplit : (10 : ℚ) ^ d'.exponent =
      10 ^ (d'.exponent - d.exponent - 1).toNat * 10 * 10 ^ d.exponent := by
    rw [← zpow_natCast, ← zpow_add_one₀ (by norm_num), ← zpow_add₀ (by norm_num)]
    congr 1
    omega
  rw [value, value, hsplit, ← mul_assoc, ← mul_assoc] at h
  have hdigits : d.digits = d'.digits * 10 ^ (d'.exponent - d.exponent - 1).toNat * 10 := by
    exact_mod_cast mul_right_cancel₀ (zpow_ne_zero _ (by norm_num)) h
  omega

theorem trim_congr {d d' : Decimal} (h : d.value = d'.value) (hd : d.digits ≠ 0) :
    d.trim = d'.trim := by
  have hd' : d'.digits ≠ 0 := (digits_ne_zero_congr h).mp hd
  have htrim : d.trim.value = d'.trim.value := by rw [value_trim, value_trim, h]
  have hexponent : d.trim.exponent = d'.trim.exponent :=
    le_antisymm (exponent_le htrim.symm (digits_trim hd')) (exponent_le htrim (digits_trim hd))
  rw [value, value, hexponent] at htrim
  have hdigits : d.trim.digits = d'.trim.digits := by
    exact_mod_cast mul_right_cancel₀ (zpow_ne_zero _ (by norm_num)) htrim
  exact Decimal.ext hdigits hexponent

/-- Decimals of one value are read alike. -/
theorem toFloat_congr {d d' : Decimal} (h : d.value = d'.value) (hd : d.digits ≠ 0) :
    d.toFloat = d'.toFloat := by
  rw [← toFloat_trim, trim_congr h hd, toFloat_trim]

theorem toFloat_eq (d : Decimal) :
    ∃ s k, d.toFloat = Float.ofScientific d.trim.digits s k ∧
      signedExponent s k = d.trim.exponent := by
  rw [toFloat]
  split
  · exact ⟨false, _, rfl, Int.toNat_of_nonneg ‹_›⟩
  · exact ⟨true, _, rfl, by rw [signedExponent, if_pos rfl]; omega⟩

/-- A decimal with the value of a number is read as that number. -/
theorem toFloat_exact {d : Decimal} {n : Nat} {e : Int} (hn : 0 < n) (hc : Canonical n e)
    (he : e ≤ 971) (h : d.value = n * 2 ^ e) : d.toFloat = ofForm (.finite .positive n e hn) := by
  obtain ⟨s, k, hfloat, hexponent⟩ := d.toFloat_eq
  rw [hfloat]
  refine ofScientific_exact hn hc he ?_
  rw [hexponent, ← h, ← value_trim, value]

theorem toFloat_zero {d : Decimal} (hd : d.digits = 0) : d.toFloat = ofForm (.zero .positive) := by
  obtain ⟨s, k, hfloat, -⟩ := d.toFloat_eq
  have htrim : d.trim = d := by rw [trim, dif_neg fun h => h.1 hd]
  rw [hfloat, htrim, hd]
  exact ofScientific_zero s k

/-! ## The place of the first digit -/

theorem leadingExponent_eq (d : Decimal) :
    d.leadingExponent = d.exponent + digitCount d.digits - 1 := rfl

theorem le_value {d : Decimal} (hd : d.digits ≠ 0) :
    (10 : ℚ) ^ d.leadingExponent ≤ d.value := by
  have hlow : (10 : ℚ) ^ (digitCount d.digits - 1) ≤ d.digits := by
    exact_mod_cast pow_digitCount_le (Nat.pos_of_ne_zero hd)
  have hcount : 0 < digitCount d.digits := Nat.length_toDigits_pos
  rw [value, leadingExponent_eq, show d.exponent + digitCount d.digits - 1 =
    ((digitCount d.digits - 1 : Nat) : Int) + d.exponent by omega, zpow_add₀ (by norm_num),
    zpow_natCast]
  gcongr

theorem value_lt (d : Decimal) : d.value < (10 : ℚ) ^ (d.leadingExponent + 1) := by
  have hhigh : (d.digits : ℚ) < 10 ^ digitCount d.digits := by
    exact_mod_cast lt_pow_digitCount d.digits
  rw [value, leadingExponent_eq, show d.exponent + digitCount d.digits - 1 + 1 =
    (digitCount d.digits : Int) + d.exponent by omega, zpow_add₀ (by norm_num), zpow_natCast]
  gcongr

theorem leadingExponent_le_of_lt {d : Decimal} (hd : d.digits ≠ 0) {n : Int}
    (h : d.value < 10 ^ (n + 1)) : d.leadingExponent ≤ n := by
  have := (zpow_lt_zpow_iff_right₀ (by norm_num)).mp ((le_value hd).trans_lt h)
  omega

theorem le_leadingExponent_of_le {d : Decimal} {n : Int} (h : (10 : ℚ) ^ n ≤ d.value) :
    n ≤ d.leadingExponent := by
  have := (zpow_lt_zpow_iff_right₀ (by norm_num)).mp (h.trans_lt (value_lt d))
  omega

theorem leadingExponent_congr {d d' : Decimal} (h : d.value = d'.value) (hd : d.digits ≠ 0) :
    d.leadingExponent = d'.leadingExponent := by
  have hd' : d'.digits ≠ 0 := (digits_ne_zero_congr h).mp hd
  exact le_antisymm (le_leadingExponent_of_le (h ▸ le_value hd))
    (le_leadingExponent_of_le (h ▸ le_value hd'))

end Decimal

/-! ## Fractions -/

namespace Fraction

/-- The value of a fraction. -/
def value (f : Fraction) : ℚ := f.num / f.den

theorem value_ofBinary (m : Nat) (e : Int) : (ofBinary m e).value = m * 2 ^ e := by
  rw [ofBinary]
  split
  · rw [value, Nat.pow_eq, Nat.cast_one, div_one, Nat.cast_mul, Nat.cast_pow, Nat.cast_ofNat,
      ← zpow_natCast, Int.toNat_of_nonneg ‹_›]
  · rw [value, Nat.pow_eq, Nat.cast_pow, Nat.cast_ofNat, ← zpow_natCast,
      Int.toNat_of_nonneg (by omega), zpow_neg, div_inv_eq_mul]

theorem num_ofBinary_pos {m : Nat} (hm : 0 < m) (e : Int) : 0 < (ofBinary m e).num := by
  rw [ofBinary]
  split
  · exact Nat.mul_pos hm (Nat.pow_pos (by decide))
  · exact hm

theorem den_ofBinary_pos (m : Nat) (e : Int) : 0 < (ofBinary m e).den := by
  rw [ofBinary]
  split <;> simp

theorem value_shift (f : Fraction) (j : Int) : (f.shift j).value = f.value / 10 ^ j := by
  rw [shift]
  split
  · rw [value, value, Nat.pow_eq, Nat.cast_mul, Nat.cast_pow, Nat.cast_ofNat, ← zpow_natCast,
      Int.toNat_of_nonneg ‹_›, div_div]
  · rw [value, value, Nat.pow_eq, Nat.cast_mul, Nat.cast_pow, Nat.cast_ofNat, ← zpow_natCast,
      Int.toNat_of_nonneg (by omega), zpow_neg, div_eq_mul_inv, div_eq_mul_inv, div_eq_mul_inv]
    ring

theorem den_shift_pos {f : Fraction} (hf : 0 < f.den) (j : Int) : 0 < (f.shift j).den := by
  rw [shift]
  split
  · exact Nat.mul_pos hf (Nat.pow_pos (by decide))
  · exact hf

/-- The leading exponent of a fraction is that of its value. -/
theorem leadingExponent_spec {f : Fraction} (hnum : 0 < f.num) (hden : 0 < f.den) :
    (10 : ℚ) ^ f.leadingExponent ≤ f.value ∧ f.value < 10 ^ (f.leadingExponent + 1) := by
  generalize hguess : (digitCount f.num : Int) - digitCount f.den = guess
  have hden' : (0 : ℚ) < f.den := by exact_mod_cast hden
  have hlow : (10 : ℚ) ^ (guess - 1) ≤ f.value := by
    have hn : (10 : ℚ) ^ (digitCount f.num - 1) ≤ f.num := by
      exact_mod_cast pow_digitCount_le hnum
    have hd : (f.den : ℚ) ≤ 10 ^ digitCount f.den := by
      exact_mod_cast (lt_pow_digitCount f.den).le
    have hcount : 0 < digitCount f.num := Nat.length_toDigits_pos
    rw [value, le_div_iff₀ hden']
    calc (10 : ℚ) ^ (guess - 1) * f.den ≤ 10 ^ (guess - 1) * 10 ^ digitCount f.den := by gcongr
      _ = 10 ^ (digitCount f.num - 1) := by
        rw [← zpow_natCast, ← zpow_natCast, ← zpow_add₀ (by norm_num)]
        congr 1
        omega
      _ ≤ f.num := hn
  have hhigh : f.value < 10 ^ (guess + 1) := by
    have hn : (f.num : ℚ) < 10 ^ digitCount f.num := by exact_mod_cast lt_pow_digitCount f.num
    have hd : (10 : ℚ) ^ (digitCount f.den - 1) ≤ f.den := by
      exact_mod_cast pow_digitCount_le hden
    have hcount : 0 < digitCount f.den := Nat.length_toDigits_pos
    rw [value, div_lt_iff₀ hden']
    calc (f.num : ℚ) < 10 ^ digitCount f.num := hn
      _ = 10 ^ (guess + 1) * 10 ^ (digitCount f.den - 1) := by
        rw [← zpow_natCast, ← zpow_natCast, ← zpow_add₀ (by norm_num)]
        congr 1
        omega
      _ ≤ 10 ^ (guess + 1) * f.den := by gcongr
  have hscaled : (f.shift guess).den ≤ (f.shift guess).num ↔ (10 : ℚ) ^ guess ≤ f.value := by
    have hpos : (0 : ℚ) < (f.shift guess).den := by exact_mod_cast den_shift_pos hden guess
    rw [← one_le_div₀ (by positivity : (0 : ℚ) < 10 ^ guess), ← value_shift, value,
      one_le_div₀ hpos]
    exact Nat.cast_le.symm
  rw [leadingExponent]
  simp only [hguess]
  split
  · exact ⟨hscaled.mp ‹_›, hhigh⟩
  · refine ⟨hlow, ?_⟩
    rw [sub_add_cancel]
    exact not_le.mp (mt hscaled.mpr ‹_›)

end Fraction

/-! ## The shortest decimal -/

namespace Decimal

theorem mem_neighbours {tie : Tie} {f : Fraction} {j : Int} {d : Decimal}
    (h : d ∈ neighbours tie f j) :
    d.exponent = j ∧ ((f.shift j).num / (f.shift j).den = d.digits ∨
      (f.shift j).num / (f.shift j).den + 1 = d.digits) := by
  rw [neighbours] at h
  split at h <;> simp only [List.mem_cons, List.not_mem_nil, or_false] at h <;>
    rcases h with rfl | rfl <;> simp

theorem search?_spec {tie : Tie} {x : Float} {f : Fraction} {grids : Nat} {exponent : Int}
    {d : Decimal} (h : search? tie x f grids exponent = some d) :
    d ∈ neighbours tie f d.exponent ∧ d.exponent ≤ exponent ∧ exponent - grids < d.exponent := by
  fun_induction search? tie x f grids exponent with
  | case1 => cases h
  | case2 grids exponent e he =>
    obtain rfl := Option.some.inj h
    have hmem := List.mem_of_find?_eq_some he
    have hexponent := (mem_neighbours hmem).1
    rw [hexponent]
    exact ⟨hmem, le_rfl, by omega⟩
  | case3 grids exponent he ih =>
    obtain ⟨hmem, hle, hlt⟩ := ih h
    exact ⟨hmem, by omega, by omega⟩

/-- What the search finds has about the magnitude of the fraction. -/
theorem search?_value {tie : Tie} {x : Float} {f : Fraction} (hnum : 0 < f.num) (hden : 0 < f.den)
    {grids : Nat} {d : Decimal} (h : search? tie x f grids f.leadingExponent = some d) :
    (10 : ℚ) ^ (f.leadingExponent - grids) ≤ d.value ∧
      d.value < 10 ^ (f.leadingExponent + 2) := by
  obtain ⟨hmem, hle, hlt⟩ := search?_spec h
  obtain ⟨hlow, hhigh⟩ := Fraction.leadingExponent_spec hnum hden
  generalize f.leadingExponent = L at *
  have hpower : (0 : ℚ) < 10 ^ d.exponent := by positivity
  have hscaled : (0 : ℚ) < (f.shift d.exponent).den := by
    exact_mod_cast Fraction.den_shift_pos hden _
  have hone : 1 ≤ (f.shift d.exponent).num / (f.shift d.exponent).den := by
    refine Nat.div_pos ?_ (Fraction.den_shift_pos hden _)
    have hvalue : (1 : ℚ) ≤ (f.shift d.exponent).value := by
      rw [Fraction.value_shift, one_le_div₀ hpower]
      exact (zpow_le_zpow_right₀ (by norm_num) hle).trans hlow
    rw [Fraction.value, one_le_div₀ hscaled] at hvalue
    exact_mod_cast hvalue
  have hquotient : (((f.shift d.exponent).num / (f.shift d.exponent).den : Nat) : ℚ) ≤
      f.value / 10 ^ d.exponent := Nat.cast_div_le.trans_eq (Fraction.value_shift f d.exponent)
  have hdigits := (mem_neighbours hmem).2
  generalize (f.shift d.exponent).num / (f.shift d.exponent).den = low at *
  constructor
  · calc (10 : ℚ) ^ (L - grids) ≤ 10 ^ d.exponent := zpow_le_zpow_right₀ (by norm_num) hlt.le
      _ ≤ d.digits * 10 ^ d.exponent :=
        le_mul_of_one_le_left hpower.le (by exact_mod_cast (show 1 ≤ d.digits by omega))
  · have htwice : (d.digits : ℚ) ≤ 2 * low := by exact_mod_cast (show d.digits ≤ 2 * low by omega)
    calc d.digits * (10 : ℚ) ^ d.exponent ≤ 2 * (f.value / 10 ^ d.exponent) * 10 ^ d.exponent := by
          gcongr
          linarith
      _ = 2 * f.value := by rw [mul_assoc, div_mul_cancel₀ _ hpower.ne']
      _ < 10 * 10 ^ (L + 1) := by
        have : (0 : ℚ) < 10 ^ (L + 1) := by positivity
        linarith
      _ = 10 ^ (L + 2) := by
        rw [← zpow_one_add₀ (by norm_num)]
        congr 1
        omega

theorem value_exact (m : Nat) (e : Int) : (exact m e).value = m * 2 ^ e := by
  rw [exact]
  split
  · rw [value, Nat.pow_eq, zpow_zero, mul_one, Nat.cast_mul, Nat.cast_pow, Nat.cast_ofNat,
      ← zpow_natCast, Int.toNat_of_nonneg ‹_›]
  · have hsplit : (2 : ℚ) ^ e = 5 ^ (-e).toNat * 10 ^ e := by
      have h10 : (10 : ℚ) ^ e = 5 ^ e * 2 ^ e := by
        rw [← mul_zpow]
        norm_num
      rw [h10, ← mul_assoc, ← zpow_natCast, Int.toNat_of_nonneg (by omega),
        ← zpow_add₀ (by norm_num), neg_add_cancel, zpow_zero, one_mul]
    rw [value, Nat.pow_eq, Nat.cast_mul, Nat.cast_pow, Nat.cast_ofNat, hsplit, mul_assoc]

/-- Where the numbers end, in powers of ten. -/
theorem ten_zpow_lt : (10 : ℚ) ^ (-324 : Int) < 2 ^ (-1074 : Int) := by
  have h : 2 ^ 1074 < 10 ^ 324 := by decide +kernel
  have hcast : (2 : ℚ) ^ 1074 < 10 ^ 324 := by exact_mod_cast h
  rw [zpow_neg, zpow_neg]
  exact inv_strictAnti₀ (by positivity) hcast

theorem lt_ten_zpow : (2 : ℚ) ^ (1024 : Int) < 10 ^ (309 : Int) := by
  have h : 2 ^ 1024 < 10 ^ 309 := by decide +kernel
  have hcast : (2 : ℚ) ^ 1024 < 10 ^ 309 := by exact_mod_cast h
  exact hcast

/-- Numbers that compare equal are equal if one of them is not zero. -/
theorem eq_of_beq {x : Float} {m : Nat} {e : Int} {hm : 0 < m} (hc : Canonical m e) (he : e ≤ 971)
    (h : (x == ofForm (.finite .positive m e hm)) = true) :
    x = ofForm (.finite .positive m e hm) := by
  have hform : (ofForm (.finite .positive m e hm)).toModel.unpack = .finite .positive m e hm :=
    unpack_ofForm hc he
  obtain ⟨-, -, h | ⟨-, h⟩ | ⟨-, h⟩⟩ := Float.beq_iff_ne_nan_and_eq.mp h
  · exact h
  · rw [h] at hform
    exact nomatch hform
  · rw [h] at hform
    exact nomatch hform

/-- The leading exponent of a number is between those of the least and the greatest ones. -/
theorem leadingExponent_ofBinary {m : Nat} {e : Int} (hm : 0 < m) (hc : Canonical m e)
    (he : e ≤ 971) :
    -324 ≤ (Fraction.ofBinary m e).leadingExponent ∧
      (Fraction.ofBinary m e).leadingExponent < 309 := by
  obtain ⟨hlow, hhigh⟩ := Fraction.leadingExponent_spec (Fraction.num_ofBinary_pos hm e)
    (Fraction.den_ofBinary_pos m e)
  rw [Fraction.value_ofBinary] at hlow hhigh
  generalize (Fraction.ofBinary m e).leadingExponent = L at hlow hhigh ⊢
  obtain ⟨hlog, hmin, -⟩ := canonical_iff.mp hc
  constructor
  · have hle : (2 : ℚ) ^ (-1074 : Int) ≤ m * 2 ^ e :=
      (zpow_le_zpow_right₀ one_le_two hmin).trans
        (le_mul_of_one_le_left (by positivity) (by exact_mod_cast hm))
    have := (zpow_lt_zpow_iff_right₀ (by norm_num)).mp (ten_zpow_lt.trans (hle.trans_lt hhigh))
    omega
  · have hlt : (m : ℚ) * 2 ^ e < 2 ^ (1024 : Int) :=
      (lt_two_zpow m e).trans_le (zpow_le_zpow_right₀ one_le_two (by rw [totalExponent]; omega))
    exact (zpow_lt_zpow_iff_right₀ (by norm_num)).mp ((hlow.trans_lt hlt).trans lt_ten_zpow)

/-- The shortest decimal of a number is what the search finds, or else the exact value,
without trailing zeros. -/
theorem shortest_eq_trim {m : Nat} {e : Int} (hm : 0 < m) (hc : Canonical m e) (he : e ≤ 971)
    (tie : Tie) :
    ∃ c : Decimal, shortest tie (ofForm (.finite .positive m e hm)) m e = c.trim ∧
      c.toFloat = ofForm (.finite .positive m e hm) ∧
      (10 : ℚ) ^ ((Fraction.ofBinary m e).leadingExponent - 17) ≤ c.value ∧
      c.value < 10 ^ ((Fraction.ofBinary m e).leadingExponent + 2) := by
  have hnum := Fraction.num_ofBinary_pos hm e
  have hden := Fraction.den_ofBinary_pos m e
  refine ⟨_, rfl, ?_⟩
  cases hsearch : search? tie (ofForm (.finite .positive m e hm)) (Fraction.ofBinary m e) 17
      (Fraction.ofBinary m e).leadingExponent with
  | none =>
    obtain ⟨hlow, hhigh⟩ := Fraction.leadingExponent_spec hnum hden
    rw [Fraction.value_ofBinary] at hlow hhigh
    rw [Option.getD_none, value_exact]
    refine ⟨toFloat_exact hm hc he (value_exact m e), ?_, ?_⟩
    · exact (zpow_le_zpow_right₀ (by norm_num) (by omega)).trans hlow
    · exact hhigh.trans (zpow_lt_zpow_right₀ (by norm_num) (by omega))
  | some c => exact ⟨eq_of_beq hc he (toFloat_of_search? hsearch), search?_value hnum hden hsearch⟩

/-- The shortest decimal of a number is not zero, reads back as the number, and has a leading
exponent that is far from the limits of reading. -/
theorem shortest_spec {m : Nat} {e : Int} (hm : 0 < m) (hc : Canonical m e) (he : e ≤ 971)
    (tie : Tie) :
    let d := shortest tie (ofForm (.finite .positive m e hm)) m e
    d.digits ≠ 0 ∧ d.toFloat = ofForm (.finite .positive m e hm) ∧
      -400 ≤ d.leadingExponent ∧ d.leadingExponent ≤ 400 := by
  intro d
  obtain ⟨hleast, hgreatest⟩ := leadingExponent_ofBinary hm hc he
  obtain ⟨c, hd, hfloat, hlower, hupper⟩ := shortest_eq_trim hm hc he tie
  generalize (Fraction.ofBinary m e).leadingExponent = L at hleast hgreatest hlower hupper
  have hvalue : d.value = c.value := (congrArg value hd).trans (value_trim c)
  rw [← hvalue] at hlower hupper
  have hdigits : d.digits ≠ 0 := value_ne_zero_iff.mp (lt_of_lt_of_le (by positivity) hlower).ne'
  refine ⟨hdigits, (congrArg toFloat hd).trans ((toFloat_trim c).trans hfloat), ?_, ?_⟩
  · have := le_leadingExponent_of_le hlower
    omega
  · have hlt : d.value < (10 : ℚ) ^ (L + 1 + 1) := by rwa [add_assoc]
    have := leadingExponent_le_of_lt hdigits hlt
    omega

end Decimal
end Worksheet
