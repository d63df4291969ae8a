import Worksheet.Number.Layout
import Worksheet.Proofs.Formula.Lexeme
import Worksheet.Proofs.Number.Decimal
import Worksheet.Proofs.Number.Finite

/- Worksheet Numerals — the text of a number is a numeral that denotes it.

   The displayed digits of a number are those of a decimal, with the point among them or
   zeros on either side, so as a numeral they have the value of that decimal
   (`numeral_layout`). The decimal was chosen to read back as the number, so the text of a
   number without a sign is a numeral of the number itself (`numeral_display`). Numerals
   denote no other numbers: a sign is never part of one (`Numeral.not_negative`). -/
namespace Worksheet

open Token

/-! ## Digits -/

theorem digits_toDigits (n : Nat) : Digits (Nat.toDigits 10 n) := fun _ hc =>
  Nat.isDigit_of_mem_toDigits (by decide) (by decide) hc

theorem digitsValue_eq (cs : List Char) : digitsValue cs = Nat.ofDigitChars 10 cs 0 := by
  rw [digitsValue, Nat.ofDigitChars_eq_foldl]
  congr 1
  funext n c
  rw [Nat.mul_comm]
  rfl

theorem digitsValue_toDigits (n : Nat) : digitsValue (Nat.toDigits 10 n) = n := by
  rw [digitsValue_eq, Nat.ofDigitChars_ten_toDigits]

theorem digitsValue_append (cs ds : List Char) :
    digitsValue (cs ++ ds) = 10 ^ ds.length * digitsValue cs + digitsValue ds := by
  rw [digitsValue_eq, digitsValue_eq, digitsValue_eq, Nat.ofDigitChars_append,
    Nat.ofDigitChars_eq_ofDigitChars_zero]

theorem digitsValue_replicate (n : Nat) : digitsValue (List.replicate n '0') = 0 := by
  rw [digitsValue_eq, Nat.ofDigitChars_replicate_zero, Nat.mul_zero]

theorem digits_replicate (n : Nat) : Digits (List.replicate n '0') := by
  intro c hc
  rw [(List.mem_replicate.mp hc).2]
  rfl

/-- Zeros before the digits of a decimal count for nothing. -/
theorem digitsValue_padded (d : Decimal) (z : Nat) :
    digitsValue (List.replicate z '0' ++ d.digitChars) = d.digits := by
  rw [digitsValue_append, digitsValue_replicate, Nat.mul_zero, Nat.zero_add]
  exact digitsValue_toDigits d.digits

/-- The digits of a decimal, in two parts. -/
theorem digitsValue_split (d : Decimal) (w : Nat) :
    digitsValue (d.digitChars.take w ++ d.digitChars.drop w) = d.digits := by
  rw [List.take_append_drop]
  exact digitsValue_toDigits d.digits

theorem digits_take (d : Decimal) (w : Nat) : Digits (d.digitChars.take w) := fun c hc =>
  digits_toDigits d.digits c (List.mem_of_mem_take hc)

theorem digits_drop (d : Decimal) (w : Nat) : Digits (d.digitChars.drop w) := fun c hc =>
  digits_toDigits d.digits c (List.mem_of_mem_drop hc)

/-! ## Texts of decimals -/

section

variable {d : Decimal} {z w : Nat}

/-- Zeros before the digits and a point after the first of them. -/
theorem numeral_below (h : d.exponent = -(z + (d.digitChars.length : Int))) :
    Numeral ('0' :: '.' :: (List.replicate z '0' ++ d.digitChars)) d.toFloat := by
  have hpart : Digits (List.replicate z '0' ++ d.digitChars) :=
    List.forall_mem_append.mpr ⟨digits_replicate z, digits_toDigits d.digits⟩
  have hnumeral : Numeral (['0'] ++ '.' :: (List.replicate z '0' ++ d.digitChars)) _ :=
    .point (digits_replicate 1) hpart (.inl (List.cons_ne_nil _ _))
  have hvalue : digitsValue (['0'] ++ (List.replicate z '0' ++ d.digitChars)) = d.digits :=
    digitsValue_padded d (z + 1)
  have hexponent : -((List.replicate z '0' ++ d.digitChars).length : Int) = d.exponent := by
    rw [h, List.length_append, List.length_replicate, Nat.cast_add]
  rwa [decimalValue, hvalue, hexponent] at hnumeral

/-- Zeros after the digits. -/
theorem numeral_above (hd : d.digits ≠ 0) (h : d.exponent = z) :
    Numeral (d.digitChars ++ List.replicate z '0') d.toFloat := by
  have hdigits : Digits (d.digitChars ++ List.replicate z '0') :=
    List.forall_mem_append.mpr ⟨digits_toDigits d.digits, digits_replicate z⟩
  have hnumeral := Numeral.whole hdigits (List.append_ne_nil_of_left_ne_nil Nat.toDigits_ne_nil _)
  have hvalue : digitsValue (d.digitChars ++ List.replicate z '0') = 10 ^ z * d.digits := by
    rw [digitsValue_append, digitsValue_replicate, List.length_replicate, Decimal.digitChars,
      digitsValue_toDigits, Nat.add_zero]
  -- the zeros are digits of the numeral, which is another decimal of the same value
  have hsame : d.value = Decimal.value ⟨10 ^ z * d.digits, 0⟩ := by
    rw [Decimal.value, Decimal.value, h, zpow_zero, zpow_natCast]
    push_cast
    ring
  rwa [decimalValue, List.append_nil, hvalue, List.length_nil, Nat.cast_zero, neg_zero,
    ← Decimal.toFloat_congr hsame hd] at hnumeral

/-- A point among the digits. -/
theorem numeral_inside (hlt : w < d.digitChars.length)
    (h : d.exponent = w - (d.digitChars.length : Int)) :
    Numeral (d.digitChars.take w ++ '.' :: d.digitChars.drop w) d.toFloat := by
  have hne : d.digitChars.drop w ≠ [] := by
    rw [ne_eq, List.drop_eq_nil_iff]
    omega
  have hnumeral := Numeral.point (digits_take d w) (digits_drop d w) (.inr hne)
  have hexponent : -((d.digitChars.drop w).length : Int) = d.exponent := by
    rw [h, List.length_drop]
    omega
  rwa [decimalValue, digitsValue_split, hexponent] at hnumeral

/-- A decimal is displayed as a numeral of its value. -/
theorem numeral_layout (hd : d.digits ≠ 0) :
    Numeral (Layout.display.ofDecimal d) d.toFloat := by
  have hlength : 0 < d.digitChars.length := Nat.length_toDigits_pos
  have hleading : d.leadingExponent = d.exponent + d.digitChars.length - 1 := rfl
  have hpositional : Layout.display.positional d.leadingExponent = true := rfl
  rw [Layout.ofDecimal, if_pos hpositional, Layout.positionalText]
  split
  · exact numeral_below (by omega)
  · simp only
    split
    · rw [if_neg (by decide), List.append_nil]
      exact numeral_above hd (by omega)
    · exact numeral_inside (by omega) (by omega)

end

/-! ## Texts of numbers -/

open Worksheet.Number Float.Model.UnpackedFloat

/-- The text of a finite number without a sign is a numeral of the number. -/
theorem numeral_display {x : Float} (hx : x.isFinite = true)
    (hsign : Layout.isNegative x = false) : Numeral (Layout.display.text x).toList x := by
  rw [Layout.text, hsign, String.toList_ofList, if_neg Bool.false_ne_true, Layout.magnitude]
  rw [Layout.isNegative] at hsign
  rcases exists_form hx with ⟨s, rfl⟩ | ⟨s, m, e, hm, rfl, hc, he⟩
  · rw [unpack_ofForm_zero] at hsign ⊢
    obtain rfl : s = .positive := by cases s <;> first | rfl | cases hsign
    have hzero : decimalValue ['0'] [] = ofForm (.zero .positive) := Decimal.toFloat_zero rfl
    have htext : Layout.display.ofDecimal ⟨0, 0⟩ = ['0'] := by decide
    show Numeral (Layout.display.ofDecimal ⟨0, 0⟩) _
    rw [htext, ← hzero]
    exact .whole (digits_replicate 1) (List.cons_ne_nil _ _)
  · rw [unpack_ofForm hc he] at hsign ⊢
    obtain rfl : s = .positive := by cases s <;> first | rfl | cases hsign
    generalize hy : ofForm (.finite .positive m e hm) = y
    have habs : y.abs = y := by
      rw [← hy]
      exact congrArg (fun u : Float.Model.UnpackedFloat => ofForm u.abs) (unpack_ofForm hc he)
    obtain ⟨hdigits, hfloat, -⟩ := Decimal.shortest_spec hm hc he Layout.display.tie
    rw [hy] at hdigits hfloat
    have hnumeral := numeral_layout hdigits
    show Numeral (Layout.display.ofDecimal (Decimal.shortest Layout.display.tie y.abs m e)) y
    rw [habs]
    rwa [hfloat] at hnumeral

/-- Digits denote no number with a sign, however many there are. -/
theorem isNegative_ofScientific (m : Nat) (s : Bool) (k : Nat) :
    Layout.isNegative (Float.ofScientific m s k) = false := by
  rcases Nat.eq_zero_or_pos m with rfl | hm
  · rw [ofScientific_zero]
    decide +kernel
  obtain ⟨u, hu, h | ⟨rfl, -⟩⟩ := ofScientific_rounds hm s k
  · rcases h.shape with rfl | ⟨m, e, hm, rfl, hc, -⟩
    · rw [hu]
      decide +kernel
    -- a number that is too great for its exponent is infinite, with the same sign
    rcases le_or_gt e 971 with he | he
    · rw [hu, Layout.isNegative, unpack_ofForm hc he]
      rfl
    · have hform : (ofForm (.finite .positive m e hm)).toModel.unpack = .infinity .positive :=
        unpack_pack_of_lt hm he
      rw [hu, Layout.isNegative, hform]
      rfl
  · rw [hu]
    decide +kernel

theorem isNegative_toFloat (d : Decimal) : Layout.isNegative d.toFloat = false := by
  obtain ⟨s, k, hfloat, -⟩ := d.toFloat_eq
  rw [hfloat]
  exact isNegative_ofScientific _ s k

/-- No numeral denotes a number with a sign. -/
theorem Numeral.not_negative {cs : List Char} {x : Float} (h : Numeral cs x) :
    Layout.isNegative x = false := by
  cases h with
  | whole _ _ => exact isNegative_toFloat _
  | point _ _ _ => exact isNegative_toFloat _

end Worksheet
