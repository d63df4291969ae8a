import Mathlib

/- Worksheet Binary Numbers — the unpacked form of a number.

   A number that is neither zero, infinite nor NaN is a sign, a mantissa and an
   exponent. Of all forms with one value a number has the canonical one, with an
   exponent of at most 971 (`canonical_of_unpack`); packing such a form loses nothing
   (`unpack_pack`), and a number is given by its form (`ofForm_unpack`). -/
namespace Worksheet.Number

open Float.Model (Format UnpackedFloat totalExponent)
open Float.Model.UnpackedFloat

/-! ## Canonical forms -/

/-- A mantissa and an exponent are canonical: the exponent is the one that the place of the
leading bit demands. -/
def Canonical (m : Nat) (e : Int) : Prop := Format.binary64.targetExponent (totalExponent m e) = e

theorem targetExponent_eq (t : Int) :
    Format.binary64.targetExponent t = max (t - 53) (-1074) := rfl

theorem canonical_iff {m : Nat} {e : Int} :
    Canonical m e ↔ m.log2 ≤ 52 ∧ -1074 ≤ e ∧ (m.log2 = 52 ∨ e = -1074) := by
  rw [Canonical, targetExponent_eq, totalExponent]
  omega

theorem log2_le_of_lt {m : Nat} (h : m < 2 ^ 53) : m.log2 ≤ 52 := by
  rcases Nat.eq_zero_or_pos m with rfl | hm
  · decide
  · have := (Nat.log2_lt hm.ne').mpr h
    omega

namespace Canonical

theorem of_subnormal {m : Nat} (hm : m < 2 ^ 52) : Canonical m (-1074) :=
  canonical_iff.mpr ⟨log2_le_of_lt (hm.trans (by decide)), le_rfl, .inr rfl⟩

theorem of_normal {m : Nat} {e : Int} (hlow : 2 ^ 52 ≤ m) (hhigh : m < 2 ^ 53)
    (he : -1074 ≤ e) : Canonical m e := by
  have hlog : m.log2 = 52 := (Nat.log2_eq_iff (by omega)).mpr ⟨hlow, hhigh⟩
  exact canonical_iff.mpr ⟨hlog.le, he, .inl hlog⟩

theorem lt_two_pow {m : Nat} {e : Int} (h : Canonical m e) (hm : 0 < m) : m < 2 ^ 53 :=
  (Nat.log2_lt hm.ne').mp (by have := canonical_iff.mp h; omega)

end Canonical

/-! ## Packing -/

theorem finite_congr {s : Sign} {m n : Nat} {e f : Int} {hm : 0 < m} {hn : 0 < n} (h : m = n)
    (h' : e = f) : UnpackedFloat.finite s m e hm = .finite s n f hn := by
  subst h h'
  rfl

/-- The bit before the stored ones adds `2 ^ 52`. -/
theorem toNat_implicit (v : BitVec 52) : (1#1 ++ v).toNat = 2 ^ 52 + v.toNat := by
  rw [BitVec.toNat_append, ← Nat.shiftLeft_add_eq_or_of_lt v.isLt]
  rfl

/-- The form of a number is canonical. -/
theorem canonical_of_unpack {b : BitVec Format.binary64.numBits} {s : Sign} {m : Nat} {e : Int}
    {hm : 0 < m} (h : unpack Format.binary64 b = .finite s m e hm) : Canonical m e ∧ e ≤ 971 := by
  have hbias : (Format.binary64.exponentBias : Int) = 1023 := rfl
  have hmantissa : (unpackMantissa b).toNat < 2 ^ 52 := (unpackMantissa b).isLt
  have hexponent : (unpackExponent b).toNat < 2048 := (unpackExponent b).isLt
  rw [unpack] at h
  simp only [hbias] at h
  split at h
  · split at h <;> exact nomatch h
  rename_i hones
  split at h
  · rename_i hzero
    split at h
    · exact nomatch h
    injection h with _ hm he
    have hexp : (unpackExponent b).toNat = 0 := by rw [hzero]; rfl
    rw [← hm, ← he, hexp]
    exact ⟨.of_subnormal hmantissa, by decide⟩
  · rename_i hzero
    injection h with _ hm he
    have hlow : (unpackExponent b).toNat ≠ 0 := fun h => hzero (BitVec.eq_of_toNat_eq h)
    have hhigh : (unpackExponent b).toNat ≠ 2047 := fun h => hones (BitVec.eq_of_toNat_eq h)
    have himplicit := toNat_implicit (unpackMantissa b)
    push_cast at he
    exact ⟨.of_normal (by omega) (by omega) (by omega), by omega⟩

theorem unpack_normal (s : Sign) {exponent : BitVec 11} (mantissa : BitVec 52)
    (hones : exponent ≠ -1#11) (hzero : exponent ≠ 0#11) :
    unpack Format.binary64 (packComponents Format.binary64 s exponent mantissa) =
      .finite s (1#1 ++ mantissa).toNat (exponent.toNat - 1075)
        (by rw [toNat_implicit]; omega) := by
  rw [unpack]
  simp only [unpackExponent_packComponents, unpackMantissa_packComponents,
    unpackSign_packComponents, Sign.ofBitVec_toBitVec, if_neg hones, if_neg hzero]
  exact finite_congr rfl rfl

theorem unpack_subnormal (s : Sign) {mantissa : BitVec 52} (h : mantissa ≠ 0#52) :
    unpack Format.binary64 (packComponents Format.binary64 s 0#11 mantissa) =
      .finite s mantissa.toNat (-1074)
        (Nat.pos_of_ne_zero fun h0 => h (BitVec.eq_of_toNat_eq h0)) := by
  have hones : (0#11 : BitVec 11) ≠ -1#11 := by decide
  rw [unpack]
  simp only [unpackExponent_packComponents, unpackMantissa_packComponents,
    unpackSign_packComponents, Sign.ofBitVec_toBitVec, if_neg hones, if_pos, dif_neg h]
  exact finite_congr rfl rfl

/-- Packing a canonical form with a fitting exponent loses nothing. -/
theorem unpack_pack {s : Sign} {m : Nat} {e : Int} {hm : 0 < m} (hc : Canonical m e)
    (he : e ≤ 971) :
    unpack Format.binary64 (pack Format.binary64 (.finite s m e hm)) = .finite s m e hm := by
  obtain ⟨hlog, hmin, hnormal⟩ := canonical_iff.mp hc
  have hupper : m < 2 ^ 53 := hc.lt_two_pow hm
  have hbias : (Format.binary64.exponentBias : Int) = 1023 := rfl
  have hbits : Format.binary64.mantissaBits = 53 := rfl
  rw [pack.eq_def]
  simp only [hbias, hbits]
  generalize hbiased : (e + 1023 + ((52 : Nat) : Int)).toNat = biased
  rw [if_neg (by omega)]
  split
  · have hexponent : (BitVec.ofNat 11 biased).toNat = biased := by
      rw [BitVec.toNat_ofNat, Nat.mod_eq_of_lt (by omega)]
    have hlow : 2 ^ 52 ≤ m := (Nat.le_log2 hm.ne').mp (by omega)
    have hmantissa : (BitVec.ofNat 52 m).toNat = m - 2 ^ 52 := by
      rw [BitVec.toNat_ofNat]
      omega
    have hne (c : BitVec 11) (hc : biased ≠ c.toNat) : BitVec.ofNat 11 biased ≠ c := by
      rintro rfl
      exact hc hexponent.symm
    rw [unpack_normal s _ (hne _ (show _ ≠ 2047 by omega)) (hne _ (show _ ≠ 0 by omega))]
    refine finite_congr ?_ ?_
    · rw [toNat_implicit, hmantissa]
      omega
    · rw [hexponent]
      omega
  · have hsmall : m < 2 ^ 52 := (Nat.log2_lt hm.ne').mp (by omega)
    have hmantissa : (BitVec.ofNat 52 m).toNat = m := by
      rw [BitVec.toNat_ofNat, Nat.mod_eq_of_lt hsmall]
    have hne : BitVec.ofNat 52 m ≠ 0#52 := fun h =>
      hm.ne' (hmantissa.symm.trans (congrArg BitVec.toNat h))
    rw [unpack_subnormal s hne]
    exact finite_congr hmantissa (by omega)

/-- A greater exponent gives an infinity. -/
theorem unpack_pack_of_lt {s : Sign} {m : Nat} {e : Int} (hm : 0 < m) (he : 971 < e) :
    unpack Format.binary64 (pack Format.binary64 (.finite s m e hm)) = .infinity s := by
  have hbias : (Format.binary64.exponentBias : Int) = 1023 := rfl
  rw [pack.eq_def]
  simp only [hbias]
  rw [if_pos (by omega), packedInfinity, unpack]
  simp only [unpackExponent_packComponents, unpackMantissa_packComponents,
    unpackSign_packComponents, Sign.ofBitVec_toBitVec, if_pos]
  exact if_pos rfl

/-- The number of a form. -/
def ofForm (u : UnpackedFloat) : Float := .ofModel (.pack u)

theorem ofForm_unpack (x : Float) : ofForm x.toModel.unpack = x :=
  Float.toBits_inj.mp (UInt64.toBitVec_inj.mp (pack_unpack_of_valid x.toModel.valid))

theorem unpack_ofForm {s : Sign} {m : Nat} {e : Int} {hm : 0 < m} (hc : Canonical m e)
    (he : e ≤ 971) : (ofForm (.finite s m e hm)).toModel.unpack = .finite s m e hm :=
  unpack_pack hc he

theorem unpack_ofForm_zero (s : Sign) : (ofForm (.zero s)).toModel.unpack = .zero s :=
  unpack_packedZero

end Worksheet.Number
