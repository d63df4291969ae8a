import Worksheet.Json.Token
import Worksheet.Proofs.Formula.Numeral

/- Worksheet JSON Numbers — what is read from the text of a number.

   The digits that are written are those of a decimal. Wherever the point stands
   and whether or not there is an exponent, the reader takes them for a numeral of
   the same value (`reads_layout`), and makes of it what its way of reading numerals
   makes of it (`spells_decimal`). The digits are such that the number is the one
   nearest to them, so if numerals are read as the nearest numbers, the number itself
   is read (`reread_nearest`). What follows must not go on with the number, so that
   the reader stops where the text ends (`EndsNumber`). -/
namespace Worksheet

open Token

/-- What may follow a number in a text: nothing, or a character that no number goes on
with. -/
def EndsNumber (rest : List Char) : Prop :=
  ∀ c ∈ rest.head?, isDigit c = false ∧ c ≠ '.' ∧ c ≠ 'e' ∧ c ≠ 'E'

/-- The digits that a number can have before its point. -/
def WholeDigits (whole : List Char) : Prop :=
  Digits whole ∧ (whole = ['0'] ∨ whole.head?.any (· != '0') = true)

/-! ## Whole digits -/

theorem any_head_append {p : Char → Bool} {cs ds : List Char} (h : cs.head?.any p = true) :
    (cs ++ ds).head?.any p = true := by
  cases cs with
  | nil => exact nomatch h
  | cons c cs => exact h

/-- The first digit of a positive number is not zero. -/
theorem head_toDigits {n : Nat} (hn : 0 < n) : (Nat.toDigits 10 n).head?.any (· != '0') = true := by
  induction n using Nat.strongRecOn with
  | _ n ih =>
    rw [Nat.toDigits_eq_if (by decide)]
    split
    · rename_i hlt
      interval_cases n <;> rfl
    · rename_i hge
      exact any_head_append (ih (n / 10) (by omega) (by omega))

theorem wholeDigits_toDigits (n : Nat) : WholeDigits (Nat.toDigits 10 n) := by
  refine ⟨digits_toDigits n, ?_⟩
  rcases Nat.eq_zero_or_pos n with rfl | hn
  · exact .inl rfl
  · exact .inr (head_toDigits hn)

theorem wholeDigits_take (d : Decimal) {w : Nat} (hw : 0 < w) :
    WholeDigits (d.digitChars.take w) := by
  obtain ⟨hdigits, hhead⟩ := wholeDigits_toDigits d.digits
  refine ⟨fun c hc => hdigits c (List.mem_of_mem_take hc), hhead.imp (fun h => ?_) fun h => ?_⟩
  · rw [Decimal.digitChars, h]
    exact List.take_of_length_le hw
  · rwa [List.head?_take, if_neg hw.ne']

namespace JsonToken

variable {reading : NumeralReading} {negative : Bool} {whole part rest : List Char}

/-! ## Parts of a number -/

theorem scanFraction_point (hpart : Digits part) (hne : part ≠ [])
    (hrest : ∀ c ∈ rest.head?, isDigit c = false) :
    scanFraction ('.' :: (part ++ rest)) = some (part, rest, part.length + 1) := by
  obtain ⟨htake, hdrop⟩ := split_front hpart hrest
  rw [scanFraction]
  simp only [htake, hdrop]
  rw [if_neg (mt List.isEmpty_iff.mp hne)]

theorem scanFraction_none (hrest : ∀ c ∈ rest.head?, c ≠ '.') :
    scanFraction rest = some ([], rest, 0) := by
  unfold scanFraction
  split
  · exact absurd rfl (hrest '.' rfl)
  · rfl

theorem scanExponent_none (hrest : ∀ c ∈ rest.head?, c ≠ 'e' ∧ c ≠ 'E') :
    scanExponent rest = some (0, 0) := by
  cases rest with
  | nil => rfl
  | cons c cs =>
    rw [scanExponent, if_neg]
    simpa using hrest c rfl

/-- An exponent as it is written: a sign and digits. -/
theorem scanExponent_signed (n : Int) (hrest : ∀ c ∈ rest.head?, isDigit c = false) :
    scanExponent ('e' :: (if n < 0 then '-' else '+') :: (Nat.toDigits 10 n.natAbs ++ rest)) =
      some (n, (Nat.toDigits 10 n.natAbs).length + 2) := by
  obtain ⟨htake, hdrop⟩ := split_front (digits_toDigits n.natAbs) hrest
  have hsign : scanSign ((if n < 0 then '-' else '+') :: (Nat.toDigits 10 n.natAbs ++ rest)) =
      (decide (n < 0), Nat.toDigits 10 n.natAbs ++ rest, 1) := by
    by_cases hn : n < 0
    · rw [if_pos hn, decide_eq_true hn]
      rfl
    · rw [if_neg hn, decide_eq_false hn]
      rfl
  rw [scanExponent, if_pos (by decide), hsign]
  simp only [htake, digitsValue_toDigits]
  rw [if_neg (by simp)]
  congr 2
  simp only [decide_eq_true_eq]
  split <;> omega

/-- What the reader of numbers makes of whole digits, a fraction and an exponent. -/
theorem scanNumber_eq (hwhole : WholeDigits whole) {cs : List Char} {partLength : Nat}
    (hcs : ∀ c ∈ cs.head?, isDigit c = false)
    (hfraction : scanFraction cs = some (part, rest, partLength)) {exponent : Int}
    {exponentLength : Nat} (hexponent : scanExponent rest = some (exponent, exponentLength)) :
    scanNumber reading negative (whole ++ cs) =
      let n := digitsValue (whole ++ part)
      some (if partLength = 0 && exponentLength = 0 && integerRange negative n then
          .integer (if negative then -n else n)
        else ofMagnitude negative (reading ⟨whole, part, exponent⟩),
        whole.length + partLength + exponentLength) := by
  obtain ⟨htake, hdrop⟩ := split_front hwhole.1 hcs
  have hguard : (whole = ['0'] || whole.head?.any (· != '0')) = true := by
    simpa using hwhole.2
  rw [scanNumber, htake, hdrop, hfraction]
  simp only [guard, if_pos hguard, Option.pure_def, Option.bind_eq_bind, Option.bind_some,
    hexponent]
  split <;> rfl

/-! ## Texts of decimals -/

/-- A text is a numeral for the reader of numbers, wherever a number may end, and however
numerals are read. -/
def Reads (cs : List Char) (m : JsonNumeral) : Prop :=
  ∀ reading negative rest, EndsNumber rest →
    scanNumber reading negative (cs ++ rest) = some (ofMagnitude negative (reading m), cs.length)

/-- Digits on both sides of a point. -/
theorem reads_point (hwhole : WholeDigits whole) (hpart : Digits part) (hne : part ≠ []) :
    Reads (whole ++ '.' :: part) ⟨whole, part, 0⟩ := by
  intro reading negative rest hrest
  have hfraction := scanFraction_point hpart hne fun c hc => (hrest c hc).1
  have hexponent := scanExponent_none fun c hc => (hrest c hc).2.2
  have hpoint : ∀ c ∈ ('.' :: (part ++ rest)).head?, isDigit c = false := by
    rintro c ⟨⟩
    rfl
  rw [List.append_assoc, List.cons_append, scanNumber_eq hwhole hpoint hfraction hexponent]
  simp

/-- The point and the digits after it, if there are any. -/
def pointText (part : List Char) : List Char := if part.isEmpty then [] else '.' :: part

theorem scanFraction_pointText (hpart : Digits part)
    (hrest : ∀ c ∈ rest.head?, isDigit c = false ∧ c ≠ '.') :
    scanFraction (pointText part ++ rest) = some (part, rest, (pointText part).length) := by
  cases part with
  | nil => exact scanFraction_none fun c hc => (hrest c hc).2
  | cons c cs => exact scanFraction_point hpart (List.cons_ne_nil c cs) fun c hc => (hrest c hc).1

theorem head_pointText (hrest : ∀ c ∈ rest.head?, isDigit c = false) :
    ∀ c ∈ (pointText part ++ rest).head?, isDigit c = false := by
  cases part with
  | nil => exact hrest
  | cons c cs =>
    rintro c ⟨⟩
    rfl

/-- Digits with an exponent, which is written with its sign. -/
theorem reads_exponent (hwhole : WholeDigits whole) (hpart : Digits part) (n : Int) :
    Reads (whole ++ (pointText part ++
        'e' :: (if n < 0 then '-' else '+') :: Nat.toDigits 10 n.natAbs)) ⟨whole, part, n⟩ := by
  intro reading negative rest hrest
  have hexponent := scanExponent_signed n fun c hc => (hrest c hc).1
  generalize htail : 'e' :: (if n < 0 then '-' else '+') :: (Nat.toDigits 10 n.natAbs ++ rest) =
    tail at hexponent
  have hhead : ∀ c ∈ tail.head?, isDigit c = false ∧ c ≠ '.' := by
    rw [← htail]
    rintro c ⟨⟩
    exact ⟨rfl, by decide⟩
  rw [List.append_assoc, List.append_assoc, List.cons_append, List.cons_append, htail,
    scanNumber_eq hwhole (head_pointText fun c hc => (hhead c hc).1)
      (scanFraction_pointText hpart hhead) hexponent]
  simp [Nat.add_assoc]

theorem decimal_eq {m : JsonNumeral} {d : Decimal}
    (hdigits : digitsValue (m.whole ++ m.part) = d.digits)
    (hexponent : m.exponent - m.part.length = d.exponent) : m.decimal = d := by
  rw [JsonNumeral.decimal, hdigits, hexponent]

/-- A text is a numeral that denotes a decimal. -/
def ReadsDecimal (cs : List Char) (d : Decimal) : Prop :=
  ∃ m, Reads cs m ∧ m.decimal = d

/-- Zeros before the digits and a point before all but the first of them. -/
theorem reads_below {d : Decimal} {z : Nat} (h : d.exponent = -(z + (d.digitChars.length : Int))) :
    ReadsDecimal ('0' :: '.' :: (List.replicate z '0' ++ d.digitChars)) d := by
  have hdigits : Digits (List.replicate z '0' ++ d.digitChars) :=
    List.forall_mem_append.mpr ⟨digits_replicate z, digits_toDigits d.digits⟩
  have hne : List.replicate z '0' ++ d.digitChars ≠ [] :=
    List.append_ne_nil_of_right_ne_nil _ Nat.toDigits_ne_nil
  have hvalue : digitsValue (['0'] ++ (List.replicate z '0' ++ d.digitChars)) = d.digits :=
    digitsValue_padded d (z + 1)
  have hexponent : 0 - ((List.replicate z '0' ++ d.digitChars).length : Int) = d.exponent := by
    rw [h, List.length_append, List.length_replicate, Nat.cast_add, zero_sub]
  exact ⟨_, reads_point ⟨digits_replicate 1, .inl rfl⟩ hdigits hne, decimal_eq hvalue hexponent⟩

/-- Zeros after the digits, a point and one more. -/
theorem reads_above {d : Decimal} {z : Nat} (hd : d.digits ≠ 0 ∨ z = 0) (h : d.exponent = z) :
    ∃ d', ReadsDecimal (d.digitChars ++ List.replicate z '0' ++ ['.', '0']) d' ∧
      d'.value = d.value := by
  have hwhole : WholeDigits (d.digitChars ++ List.replicate z '0') := by
    refine ⟨List.forall_mem_append.mpr ⟨digits_toDigits d.digits, digits_replicate z⟩, ?_⟩
    rcases hd with hd | rfl
    · exact .inr (any_head_append (head_toDigits (Nat.pos_of_ne_zero hd)))
    · rw [List.replicate_zero, List.append_nil]
      exact (wholeDigits_toDigits d.digits).2
  have hvalue : digitsValue (d.digitChars ++ List.replicate z '0' ++ ['0']) =
      10 * (10 ^ z * d.digits) := by
    rw [digitsValue_append, digitsValue_append, digitsValue_replicate, List.length_replicate,
      Decimal.digitChars, digitsValue_toDigits]
    rfl
  refine ⟨_, ⟨_, reads_point hwhole (digits_replicate 1) (List.cons_ne_nil _ _), rfl⟩, ?_⟩
  rw [Decimal.value, Decimal.value, h]
  calc ((digitsValue (d.digitChars ++ List.replicate z '0' ++ ['0']) : Nat) : ℚ) *
        10 ^ ((0 : Int) - 1)
      = 10 * (10 ^ z * d.digits) * 10 ^ (-1 : Int) := by
        rw [hvalue, zero_sub]
        push_cast
        rfl
    _ = d.digits * 10 ^ (z : Int) := by
        rw [zpow_neg_one, zpow_natCast]
        ring

/-- A point among the digits. -/
theorem reads_inside {d : Decimal} {w : Nat} (hw : 0 < w) (hlt : w < d.digitChars.length)
    (h : d.exponent = w - (d.digitChars.length : Int)) :
    ReadsDecimal (d.digitChars.take w ++ '.' :: d.digitChars.drop w) d := by
  have hne : d.digitChars.drop w ≠ [] := by
    rw [ne_eq, List.drop_eq_nil_iff]
    omega
  have hexponent : 0 - ((d.digitChars.drop w).length : Int) = d.exponent := by
    rw [h, List.length_drop]
    omega
  exact ⟨_, reads_point (wholeDigits_take d hw) (digits_drop d w) hne,
    decimal_eq (digitsValue_split d w) hexponent⟩

/-- One digit before the point, and an exponent. -/
theorem reads_scientific (d : Decimal) :
    ReadsDecimal (Layout.exponentText d.digitChars d.leadingExponent) d := by
  have hlength : 0 < d.digitChars.length := Nat.length_toDigits_pos
  have hleading : d.leadingExponent = d.exponent + d.digitChars.length - 1 := rfl
  have hreads := reads_exponent (wholeDigits_take d Nat.one_pos) (digits_drop d 1)
    d.leadingExponent
  have hpoint : pointText (d.digitChars.drop 1) =
      if d.digitChars.length ≤ 1 then [] else '.' :: d.digitChars.drop 1 := by
    rw [pointText]
    simp only [List.isEmpty_iff, List.drop_eq_nil_iff]
  have hexponent : d.leadingExponent - ((d.digitChars.drop 1).length : Int) = d.exponent := by
    rw [List.length_drop]
    omega
  rw [hpoint, ← List.append_assoc] at hreads
  exact ⟨_, hreads, decimal_eq (digitsValue_split d 1) hexponent⟩

/-- The text of a decimal is a numeral of the same value. -/
theorem reads_layout {d : Decimal} (hd : d.digits ≠ 0 ∨ d = ⟨0, 0⟩) :
    ∃ d', ReadsDecimal (Layout.interchange.ofDecimal d) d' ∧ d'.value = d.value := by
  have hlength : 0 < d.digitChars.length := Nat.length_toDigits_pos
  have hleading : d.leadingExponent = d.exponent + d.digitChars.length - 1 := rfl
  rw [Layout.ofDecimal]
  split
  · rw [Layout.positionalText]
    split
    -- Only zeros that stand behind the digits change the decimal, and they keep its value.
    · exact ⟨d, reads_below (by omega), rfl⟩
    · simp only
      split
      · refine reads_above ?_ (by omega)
        rcases hd with hd | rfl
        · exact .inl hd
        · exact .inr rfl
      · exact ⟨d, reads_inside (Nat.succ_pos _) (by omega) (by omega), rfl⟩
  · exact ⟨d, reads_scientific d, rfl⟩

/-! ## Numbers that are read -/

open Worksheet.Number Float.Model.UnpackedFloat

theorem ofMagnitude_of_finite {x : Float} (hx : x.isFinite = true) :
    ofMagnitude negative (some x) = .decimal (if negative then -x else x) := if_pos hx

/-- What is read is a finite number, or nothing that can be used. -/
theorem ofMagnitude_cases (negative : Bool) (o : Option Float) :
    ofMagnitude negative o = .unreadable ∨
      ∃ x : Float, x.isFinite = true ∧ ofMagnitude negative o = .decimal x := by
  cases o with
  | none => exact .inl rfl
  | some x =>
    rw [ofMagnitude]
    split
    · rename_i hx
      refine .inr ⟨if negative then -x else x, ?_, rfl⟩
      split
      · exact isFinite_neg hx
      · exact hx
    · exact .inl rfl

variable {m : JsonNumeral}

theorem nearest_zero (hm : m.decimal.digits = 0) : NumeralReading.nearest m = some 0 := by
  simp [NumeralReading.nearest, hm]

theorem nearest_eq (hm : m.decimal.digits ≠ 0) (hlow : -400 ≤ m.decimal.leadingExponent)
    (hhigh : m.decimal.leadingExponent ≤ 400) :
    NumeralReading.nearest m = some m.decimal.toFloat := by
  simp [NumeralReading.nearest, hm, not_lt.mpr hlow, not_lt.mpr hhigh]

/-- The text of a finite number without its sign is a numeral, and the nearest number to it
is the number. -/
theorem reads_magnitude {x : Float} (hx : x.isFinite = true) :
    ∃ m, Reads (Layout.interchange.magnitude x) m ∧
      ofMagnitude (Layout.isNegative x) (NumeralReading.nearest m) = .decimal x := by
  have hround := ofForm_unpack x
  change x.toModel.unpack.isFinite = true at hx
  rw [Layout.magnitude, Layout.isNegative]
  cases hform : x.toModel.unpack with
  | notANumber =>
    rw [hform] at hx
    cases hx
  | infinity s =>
    rw [hform] at hx
    cases hx
  | zero s =>
    obtain ⟨_, ⟨m, hreads, rfl⟩, hvalue⟩ := reads_layout (d := ⟨0, 0⟩) (.inr rfl)
    have hm : m.decimal.digits = 0 :=
      not_not.mp fun hne => (Decimal.digits_ne_zero_congr hvalue).mp hne rfl
    refine ⟨m, hreads, ?_⟩
    rw [nearest_zero hm, ofMagnitude_of_finite (by decide +kernel), ← hround, hform]
    cases s <;> rfl
  | finite s k e hk =>
    obtain ⟨hc, he⟩ := canonical_of_unpack hform
    have habs : x.abs = ofForm (.finite .positive k e hk) :=
      congrArg (fun u : Float.Model.UnpackedFloat => ofForm u.abs) hform
    have hspec := Decimal.shortest_spec hk hc he Layout.interchange.tie
    rw [← habs] at hspec
    obtain ⟨hdigits, hfloat, hlow, hhigh⟩ := hspec
    obtain ⟨_, ⟨m, hreads, rfl⟩, hvalue⟩ := reads_layout (.inl hdigits)
    have hm : m.decimal.digits ≠ 0 := (Decimal.digits_ne_zero_congr hvalue).mpr hdigits
    rw [← Decimal.leadingExponent_congr hvalue hm] at hlow hhigh
    rw [← Decimal.toFloat_congr hvalue hm] at hfloat
    refine ⟨m, hreads, ?_⟩
    have habsform : x.abs.toModel.unpack = .finite .positive k e hk := by
      rw [habs, unpack_ofForm hc he]
    have hfinite : x.abs.isFinite = true :=
      congrArg Float.Model.UnpackedFloat.isFinite habsform
    rw [nearest_eq hm hlow hhigh, hfloat, ofMagnitude_of_finite hfinite]
    congr 1
    cases s with
    | positive => exact habs.trans (hform ▸ hround)
    | negative =>
      have hneg : -x.abs = ofForm (.finite .negative k e hk) :=
        congrArg (fun u : Float.Model.UnpackedFloat => ofForm u.neg) habsform
      exact hneg.trans (hform ▸ hround)

/-! ## Numbers as tokens -/

/-- A text is a token for the reader, wherever a number may end. -/
def Spells (reading : NumeralReading) (cs : List Char) (t : JsonToken) : Prop :=
  ∃ c cs', cs = c :: cs' ∧ isSeparator c = false ∧
    ∀ rest, EndsNumber rest → scan reading c (cs' ++ rest) = some (t, cs.length)

theorem scan_digit {c : Char} (hc : isDigit c = true) (cs : List Char) :
    scan reading c cs = (scanNumber reading false (c :: cs)).map fun (v, n) => (.scalar v, n) := by
  unfold scan
  split <;> first | rfl | exact absurd hc (by decide)

theorem isSeparator_digit {c : Char} (hc : isDigit c = true) : isSeparator c = false := by
  by_contra hsep
  simp only [isSeparator, Bool.not_eq_false, Bool.or_eq_true, beq_iff_eq] at hsep
  rcases hsep with ((rfl | rfl) | rfl) | rfl <;> exact absurd hc (by decide)

theorem exists_digit_of_scanNumber {cs : List Char} (h : scanNumber reading negative cs ≠ none) :
    ∃ c cs', cs = c :: cs' ∧ isDigit c = true := by
  cases cs with
  | nil => exact absurd rfl h
  | cons c cs =>
    refine ⟨c, cs, rfl, ?_⟩
    by_contra hc
    rw [scanNumber, List.takeWhile_cons_of_neg hc] at h
    exact h rfl

variable {x : Float}

/-- A number with its sign is a token. -/
theorem spells_number {cs : List Char} {v : Json}
    (h : ∀ rest, EndsNumber rest →
      scanNumber reading negative (cs ++ rest) = some (v, cs.length)) :
    Spells reading (if negative then '-' :: cs else cs) (.scalar v) := by
  cases negative with
  | true =>
    refine ⟨'-', cs, rfl, rfl, fun rest hrest => ?_⟩
    change (scanNumber reading true (cs ++ rest)).map _ = _
    rw [h rest hrest]
    rfl
  | false =>
    have hnil := h [] nofun
    rw [List.append_nil] at hnil
    obtain ⟨c, cs', rfl, hc⟩ := exists_digit_of_scanNumber (hnil ▸ Option.some_ne_none _)
    refine ⟨c, cs', rfl, isSeparator_digit hc, fun rest hrest => ?_⟩
    rw [scan_digit hc, ← List.cons_append, h rest hrest]
    rfl

/-- What is read of the text of a number. -/
def reread (reading : NumeralReading) (x : Float) : Json :=
  ((scanNumber reading (Layout.isNegative x) (Layout.interchange.magnitude x)).map Prod.fst).getD
    .unreadable

theorem reread_of_reads (h : Reads (Layout.interchange.magnitude x) m) :
    reread reading x = ofMagnitude (Layout.isNegative x) (reading m) := by
  have hscan := h reading (Layout.isNegative x) [] nofun
  rw [List.append_nil] at hscan
  rw [reread, hscan]
  rfl

theorem spells_decimal (hx : x.isFinite = true) :
    Spells reading (Layout.interchange.text x).toList (.scalar (reread reading x)) := by
  obtain ⟨m, hreads, -⟩ := reads_magnitude hx
  rw [Layout.text, String.toList_ofList, reread_of_reads hreads]
  exact spells_number fun rest hrest => hreads reading _ rest hrest

/-- The nearest number to the text of a number is the number. -/
theorem reread_nearest (hx : x.isFinite = true) : reread .nearest x = .decimal x := by
  obtain ⟨m, hreads, hnearest⟩ := reads_magnitude hx
  rw [reread_of_reads hreads, hnearest]

/-- A number is read as a number, or as one beyond all numbers. -/
theorem reread_cases (reading : NumeralReading) (hx : x.isFinite = true) :
    reread reading x = .unreadable ∨
      ∃ y : Float, y.isFinite = true ∧ reread reading x = .decimal y := by
  obtain ⟨m, hreads, -⟩ := reads_magnitude hx
  rw [reread_of_reads hreads]
  exact ofMagnitude_cases _ _

theorem toList_toString (n : Int) :
    (toString n).toList =
      if decide (n < 0) then '-' :: Nat.toDigits 10 n.natAbs else Nat.toDigits 10 n.natAbs := by
  rw [Int.toString_eq_repr, Int.repr_eq_if]
  by_cases hn : n < 0
  · rw [if_neg (by omega), if_pos (decide_eq_true hn), String.toList_append, Nat.toList_repr,
      show (-n).toNat = n.natAbs by omega]
    rfl
  · rw [if_pos (by omega), if_neg (by simpa using hn), Nat.toList_repr,
      show n.toNat = n.natAbs by omega]

/-- The tree that an integer is read as: itself, if it has at most 64 bits. -/
def ofInteger (reading : NumeralReading) (n : Int) : Json :=
  if integerRange (n < 0) n.natAbs then .integer n
  else ofMagnitude (n < 0) (reading ⟨Nat.toDigits 10 n.natAbs, [], 0⟩)

theorem spells_integer (n : Int) :
    Spells reading (toString n).toList (.scalar (ofInteger reading n)) := by
  rw [toList_toString]
  refine spells_number fun rest hrest => ?_
  have hfraction := scanFraction_none fun c hc => (hrest c hc).2.1
  have hexponent := scanExponent_none fun c hc => (hrest c hc).2.2
  have hsign : (if decide (n < 0) then -(n.natAbs : Int) else n.natAbs) = n := by
    simp only [decide_eq_true_eq]
    split <;> omega
  have hdigits : ∀ c ∈ rest.head?, isDigit c = false := fun c hc => (hrest c hc).1
  rw [scanNumber_eq (wholeDigits_toDigits n.natAbs) hdigits hfraction hexponent]
  simp only [List.append_nil, digitsValue_toDigits, hsign, decide_true, Bool.true_and]
  rfl

end JsonToken

end Worksheet
