import Worksheet.Json.Codec
import Worksheet.Proofs.Json.Sound

/- Worksheet JSON Laws — what is relied on of interchange text.

   A codec is trusted with little: scalars are read back, except that a number may be read
   as another one and that a number that is not finite is written as nothing, and
   containers are read back from what they hold (`JsonCodec.Lawful`). The reader and the
   writer here keep these laws, however numerals are read (`JsonCodec.lawful_ofReading`).
   From the laws alone a tree is read back with each number read as it is on its own
   (`JsonCodec.Lawful.reads`), so it is read back as it was if the codec keeps its numbers
   (`JsonCodec.Keeps`). -/
namespace Worksheet

namespace JsonCodec

variable {codec : JsonCodec} {style : JsonStyle} {j k : Json} {x : Float}

/-- The text of one tree is read as another. -/
def Reads (codec : JsonCodec) (style : JsonStyle) (j k : Json) : Prop :=
  codec.read (codec.write style j) = some k

/-- A number is read back from its text, written either way. -/
def Keeps (codec : JsonCodec) (x : Float) : Prop :=
  ∀ style, codec.Reads style (.decimal x) (.decimal x)

/-- What readers and writers of interchange text agree on. Which number is read back for a
number is left open. -/
structure Lawful (codec : JsonCodec) : Prop where
  null : ∀ style, codec.Reads style .null .null
  bool : ∀ style b, codec.Reads style (.bool b) (.bool b)
  text : ∀ style s, codec.Reads style (.text s) (.text s)
  /-- Integers of 64 bits, with or without a sign, are kept. -/
  integer : ∀ style (n : Int), -2 ^ 63 ≤ n → n < 2 ^ 64 → codec.Reads style (.integer n) (.integer n)
  /-- A finite number is read as a finite number, or is too great to be read. -/
  finite : ∀ style (x : Float), x.isFinite = true →
    codec.Reads style (.decimal x) .unreadable ∨
      ∃ y : Float, y.isFinite = true ∧ codec.Reads style (.decimal x) (.decimal y)
  /-- There is no notation for other numbers: they are written as nothing. -/
  notFinite : ∀ style (x : Float), x.isFinite = false → codec.Reads style (.decimal x) .null
  array : ∀ style js ks, List.Forall₂ (codec.Reads style) js ks →
    (Json.array js).nesting ≤ Json.nestingLimit → codec.Reads style (.array js) (.array ks)
  object : ∀ style ms ns,
    List.Forall₂ (fun m n => m.1 = n.1 ∧ codec.Reads style m.2 n.2) ms ns →
      (Json.object ms).nesting ≤ Json.nestingLimit → codec.Reads style (.object ms) (.object ns)
  /-- A text may be followed by a line end. -/
  line : ∀ style j, codec.read (codec.write style j ++ "\n") = codec.read (codec.write style j)
  /-- Whatever is read has finite numbers only, and is not nested too deeply. -/
  fits : ∀ text j, codec.read text = some j → j.Fits Json.nestingLimit

/-! ## Trees and their numbers -/

/-- What is read of the text of a number. -/
def reread (codec : JsonCodec) (style : JsonStyle) (x : Float) : Json :=
  (codec.read (codec.write style (.decimal x))).getD .unreadable

theorem Reads.reread (h : codec.Reads style (.decimal x) k) : codec.reread style x = k := by
  rw [JsonCodec.reread, h, Option.getD_some]

theorem Keeps.reread (h : codec.Keeps x) : codec.reread style x = .decimal x := (h style).reread

end JsonCodec

namespace Json

mutual
/-- A tree with another tree in place of each number that is not an integer. -/
def mapDecimals (f : Float → Json) : Json → Json
  | decimal x => f x
  | array items => array (mapDecimalsAll f items)
  | object members => object (mapDecimalsMembers f members)
  | j => j

def mapDecimalsAll (f : Float → Json) : List Json → List Json
  | [] => []
  | j :: js => j.mapDecimals f :: mapDecimalsAll f js

def mapDecimalsMembers (f : Float → Json) : List (String × Json) → List (String × Json)
  | [] => []
  | (name, j) :: ms => (name, j.mapDecimals f) :: mapDecimalsMembers f ms
end

theorem mapDecimalsMembers_eq_map (f : Float → Json) (ms : List (String × Json)) :
    mapDecimalsMembers f ms = ms.map fun (name, j) => (name, j.mapDecimals f) := by
  induction ms with
  | nil => rfl
  | cons m ms ih => rw [mapDecimalsMembers, ih, List.map_cons]

section

variable {f : Float → Json}

@[simp] theorem mapDecimals_ofText? (o : Option String) :
    (ofText? o).mapDecimals f = ofText? o := by
  cases o <;> rfl

@[simp] theorem mapDecimals_ofNat? (o : Option Nat) : (ofNat? o).mapDecimals f = ofNat? o := by
  cases o <;> rfl

theorem mapDecimals_ofNumber? {o : Option Float} (h : ∀ x ∈ o, f x = .decimal x) :
    (ofNumber? o).mapDecimals f = ofNumber? o := by
  cases o with
  | none => rfl
  | some x => exact h x rfl

end

mutual
/-- No part of a tree is unreadable, and its integers have at most 64 bits. -/
def Writable : Json → Prop
  | integer n => -2 ^ 63 ≤ n ∧ n < 2 ^ 64
  | array items => WritableAll items
  | object members => WritableMembers members
  | unreadable => False
  | _ => True

def WritableAll : List Json → Prop
  | [] => True
  | j :: js => j.Writable ∧ WritableAll js

def WritableMembers : List (String × Json) → Prop
  | [] => True
  | (_, j) :: ms => j.Writable ∧ WritableMembers ms
end

theorem writableMembers_iff {ms : List (String × Json)} :
    WritableMembers ms ↔ ∀ m ∈ ms, m.2.Writable := by
  induction ms with
  | nil => simp [WritableMembers]
  | cons m ms ih => simp [WritableMembers, ih]

@[simp] theorem writable_ofText? (o : Option String) : (ofText? o).Writable := by
  cases o <;> trivial

@[simp] theorem writable_ofNumber? (o : Option Float) : (ofNumber? o).Writable := by
  cases o <;> trivial

theorem writable_ofNat? {o : Option Nat} (h : ∀ n ∈ o, n < UInt64.size) :
    (ofNat? o).Writable := by
  cases o with
  | none => trivial
  | some n =>
    have hn : n < UInt64.size := h n rfl
    rw [ofNat?, Writable]
    rw [UInt64.size] at hn
    omega

mutual
theorem isReadable_of_writable : ∀ {j : Json}, j.Writable → j.isReadable = true
  | null, _ | bool _, _ | integer _, _ | decimal _, _ | text _, _ => rfl
  | array _, h => areReadable_of_writable h
  | object _, h => membersReadable_of_writable h

theorem areReadable_of_writable : ∀ {js : List Json}, WritableAll js → areReadable js = true
  | [], _ => rfl
  | _ :: _, h =>
    Bool.and_eq_true_iff.mpr ⟨isReadable_of_writable h.1, areReadable_of_writable h.2⟩

theorem membersReadable_of_writable :
    ∀ {ms : List (String × Json)}, WritableMembers ms → membersReadable ms = true
  | [], _ => rfl
  | _ :: _, h =>
    Bool.and_eq_true_iff.mpr ⟨isReadable_of_writable h.1, membersReadable_of_writable h.2⟩
end

end Json

namespace JsonCodec

variable {codec : JsonCodec} {style : JsonStyle} {x : Float}

namespace Lawful

theorem reread_of_not_finite (h : codec.Lawful) (hx : x.isFinite = false) :
    codec.reread style x = .null :=
  (h.notFinite style x hx).reread

theorem reads_decimal (h : codec.Lawful) (style : JsonStyle) (x : Float) :
    codec.Reads style (.decimal x) (codec.reread style x) := by
  cases hx : x.isFinite with
  | false => exact h.reread_of_not_finite hx ▸ h.notFinite style x hx
  | true =>
    rcases h.finite style x hx with hread | ⟨y, -, hread⟩
    · exact hread.reread.symm ▸ hread
    · exact hread.reread.symm ▸ hread

/-- A number is read as nothing, as a number or not at all. -/
theorem reread_cases (h : codec.Lawful) (style : JsonStyle) (x : Float) :
    codec.reread style x = .null ∨ codec.reread style x = .unreadable ∨
      ∃ y, codec.reread style x = .decimal y := by
  cases hx : x.isFinite with
  | false => exact .inl (h.reread_of_not_finite hx)
  | true =>
    rcases h.finite style x hx with hread | ⟨y, -, hread⟩
    · exact .inr (.inl hread.reread)
    · exact .inr (.inr ⟨y, hread.reread⟩)

/-- Only finite numbers are kept. -/
theorem isFinite_of_keeps (h : codec.Lawful) (hx : codec.Keeps x) : x.isFinite = true :=
  (h.fits _ _ (hx .compact)).sound

mutual
/-- A tree is read back with each number read as it is on its own. -/
theorem reads (h : codec.Lawful) (style : JsonStyle) : ∀ j : Json, j.Writable →
    j.nesting ≤ Json.nestingLimit → codec.Reads style j (j.mapDecimals (codec.reread style))
  | .null, _, _ => h.null style
  | .bool b, _, _ => h.bool style b
  | .text s, _, _ => h.text style s
  | .integer n, hj, _ => h.integer style n hj.1 hj.2
  | .decimal x, _, _ => h.reads_decimal style x
  | .array items, hj, hn =>
    h.array style _ _ (reads_all h style items hj ((Nat.le_succ _).trans hn)) hn
  | .object members, hj, hn =>
    h.object style _ _ (reads_members h style members hj ((Nat.le_succ _).trans hn)) hn

theorem reads_all (h : codec.Lawful) (style : JsonStyle) : ∀ js : List Json,
    Json.WritableAll js → Json.nestingAll js ≤ Json.nestingLimit →
      List.Forall₂ (codec.Reads style) js (Json.mapDecimalsAll (codec.reread style) js)
  | [], _, _ => .nil
  | j :: js, hjs, hn =>
    .cons (reads h style j hjs.1 ((Nat.le_max_left _ _).trans hn))
      (reads_all h style js hjs.2 ((Nat.le_max_right _ _).trans hn))

theorem reads_members (h : codec.Lawful) (style : JsonStyle) : ∀ ms : List (String × Json),
    Json.WritableMembers ms → Json.nestingMembers ms ≤ Json.nestingLimit →
      List.Forall₂ (fun m n => m.1 = n.1 ∧ codec.Reads style m.2 n.2) ms
        (Json.mapDecimalsMembers (codec.reread style) ms)
  | [], _, _ => .nil
  | (_, j) :: ms, hms, hn =>
    .cons ⟨rfl, reads h style j hms.1 ((Nat.le_max_left _ _).trans hn)⟩
      (reads_members h style ms hms.2 ((Nat.le_max_right _ _).trans hn))
end

end Lawful

/-! ## The codecs that are defined -/

section Reading

variable {reading : NumeralReading}

/-- A tree is read as what its text shows of it. -/
theorem reads_shown (style : JsonStyle) {j : Json} (h : j.nesting ≤ Json.nestingLimit) :
    (ofReading reading).Reads style j (j.shown reading) := by
  cases style with
  | compact => exact Json.readWith_compact h
  | pretty => exact Json.readWith_pretty h

theorem eq_shown_of_reads {j k : Json} (hread : (ofReading reading).Reads style j k)
    (h : j.nesting ≤ Json.nestingLimit) : k = j.shown reading :=
  Option.some.inj (hread.symm.trans (reads_shown style h))

theorem shownAll_of_reads {js ks : List Json}
    (h : List.Forall₂ ((ofReading reading).Reads style) js ks)
    (hn : Json.nestingAll js ≤ Json.nestingLimit) : ks = Json.shownAll reading js := by
  induction h with
  | nil => rfl
  | cons hj _ ih =>
    rw [Json.nestingAll] at hn
    rw [Json.shownAll, ← eq_shown_of_reads hj (by omega), ← ih (by omega)]

theorem shownMembers_of_reads {ms ns : List (String × Json)}
    (h : List.Forall₂ (fun m n => m.1 = n.1 ∧ (ofReading reading).Reads style m.2 n.2) ms ns)
    (hn : Json.nestingMembers ms ≤ Json.nestingLimit) : ns = Json.shownMembers reading ms := by
  induction h with
  | nil => rfl
  | @cons m n _ _ hm _ ih =>
    obtain ⟨name, j⟩ := m
    obtain ⟨_, k⟩ := n
    obtain ⟨rfl, hm⟩ := hm
    rw [Json.nestingMembers] at hn
    have hj : j.nesting ≤ Json.nestingLimit := by omega
    rw [Json.shownMembers, ← eq_shown_of_reads hm hj, ← ih (by omega)]

theorem reads_shown_decimal (reading : NumeralReading) (style : JsonStyle)
    (hx : x.isFinite = true) :
    (ofReading reading).Reads style (.decimal x) (JsonToken.reread reading x) := by
  have hread : (ofReading reading).Reads style (.decimal x) (Json.shown reading (.decimal x)) :=
    reads_shown style (Nat.zero_le _)
  rwa [Json.shown, if_pos hx] at hread

/-- The reader and the writer are lawful, however numerals are read. -/
theorem lawful_ofReading (reading : NumeralReading) : (ofReading reading).Lawful where
  null style := reads_shown style (Nat.zero_le _)
  bool style b := reads_shown style (Nat.zero_le _)
  text style s := reads_shown style (Nat.zero_le _)
  integer style n hlow hhigh := by
    have hread : (ofReading reading).Reads style (.integer n) (Json.shown reading (.integer n)) :=
      reads_shown style (Nat.zero_le _)
    have hrange : JsonToken.integerRange (n < 0) n.natAbs = true := by
      rw [JsonToken.integerRange]
      by_cases hn : n < 0 <;> simp [hn, UInt64.size] <;> omega
    rwa [Json.shown, JsonToken.ofInteger, if_pos hrange] at hread
  finite style x hx := by
    have hread := reads_shown_decimal reading style hx
    rcases JsonToken.reread_cases reading hx with h | ⟨y, hy, h⟩
    · exact .inl (h ▸ hread)
    · exact .inr ⟨y, hy, h ▸ hread⟩
  notFinite style x hx := by
    have hread : (ofReading reading).Reads style (.decimal x) (Json.shown reading (.decimal x)) :=
      reads_shown style (Nat.zero_le _)
    rwa [Json.shown, if_neg (by simp [hx])] at hread
  array style js ks h hn := by
    rw [shownAll_of_reads h ((Nat.le_succ _).trans hn)]
    exact reads_shown style hn
  object style ms ns h hn := by
    rw [shownMembers_of_reads h ((Nat.le_succ _).trans hn)]
    exact reads_shown style hn
  line style j := by
    cases style with
    | compact =>
      have hspells : JsonToken.SpellsAll reading j.compact.toList (j.shown reading).tokens := by
        rw [Json.compact, String.toList_ofList]
        exact JsonToken.spellsAll_tokens j
      exact Json.readWith_line hspells
    | pretty =>
      have hspells : JsonToken.SpellsAll reading j.pretty.toList (j.shown reading).tokens := by
        rw [Json.pretty, String.toList_ofList]
        exact JsonToken.spellsAll_lines 0 j
      exact Json.readWith_line hspells
  fits text j h := Json.fits_of_readWith h

theorem lawful_standard : standard.Lawful := lawful_ofReading .scaled

theorem keeps_ofReading (hx : x.isFinite = true)
    (h : JsonToken.reread reading x = .decimal x) : (ofReading reading).Keeps x := by
  intro style
  have hread := reads_shown_decimal reading style hx
  rwa [h] at hread

/-- If every number is read as the nearest one, all finite numbers are kept. -/
theorem keeps_exact (hx : x.isFinite = true) : exact.Keeps x :=
  keeps_ofReading hx (JsonToken.reread_nearest hx)

/-- Whether a number is kept can be told from bits. -/
theorem keeps_standard_iff : standard.Keeps x ↔ x.isFinite = true ∧
    (JsonToken.reread .scaled x).number?.map Float.toBits = some x.toBits := by
  constructor
  · intro h
    have hx : x.isFinite = true := lawful_standard.isFinite_of_keeps h
    have hread : some (JsonToken.reread .scaled x) = some (.decimal x) :=
      (reads_shown_decimal .scaled .compact hx).symm.trans (h .compact)
    rw [Option.some.inj hread]
    exact ⟨hx, rfl⟩
  · rintro ⟨hx, h⟩
    refine keeps_ofReading hx ?_
    rcases JsonToken.reread_cases .scaled hx with hread | ⟨y, -, hread⟩
    · rw [hread] at h
      exact nomatch h
    · rw [hread] at h ⊢
      exact congrArg _ (Float.toBits_inj.mp (Option.some.inj h))

instance (x : Float) : Decidable (standard.Keeps x) := decidable_of_iff _ keeps_standard_iff.symm

/-- A number that is read as the one beside it, and that one. -/
example : ¬ standard.Keeps 3.9000000000000004 ∧ standard.Keeps 3.9 := by decide +kernel

end Reading

end JsonCodec

end Worksheet
