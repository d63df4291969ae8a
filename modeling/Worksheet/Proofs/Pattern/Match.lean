import Mathlib.Data.Nat.Init
import Worksheet.Pattern.Match

/- Worksheet Matching Theory — the places that are found are those that match.

   A match never goes back, and it goes beyond the end of the text only by staying where it
   is. So among more steps than the text has characters one stays in its place, and it can
   be left out or made twice (`Pattern.Times.change`): counts of repetitions beyond that make
   no difference. The growth of a set of places meets what some number of steps reaches,
   because a place that is met and not in the last layer leads nowhere new
   (`Pattern.mem_grow`). Together these give the places that a pattern leads to, by its shape
   (`Pattern.mem_ends`). -/
namespace Worksheet.Pattern

/-! ## Steps -/

section

variable {step : Nat → Nat → Prop} {m n i j k : Nat}

theorem times_add : Times step (m + n) i k ↔ ∃ j, Times step m i j ∧ Times step n j k := by
  induction m generalizing i with
  | zero => simp [Times]
  | succ m ih =>
    rw [Nat.succ_add]
    simp only [Times, ih]
    constructor
    · rintro ⟨a, ha, b, hb, hk⟩
      exact ⟨b, ⟨a, ha, hb⟩, hk⟩
    · rintro ⟨b, ⟨a, ha, hb⟩, hk⟩
      exact ⟨a, ha, b, hb, hk⟩

theorem times_one : Times step 1 i j ↔ step i j := by simp [Times]

/-- A step leads from a place to itself or forward, and not beyond `size` unless it stays. -/
def Forward (size : Nat) (step : Nat → Nat → Prop) : Prop :=
  ∀ i j, step i j → i ≤ j ∧ j ≤ max i size

variable {size : Nat}

theorem Forward.times (h : Forward size step) (n : Nat) : Forward size (Times step n) := by
  induction n with
  | zero =>
    rintro i j rfl
    exact ⟨Nat.le_refl i, Nat.le_max_left i size⟩
  | succ n ih =>
    rintro i k ⟨j, hj, hk⟩
    have hij := h i j hj
    have hjk := ih j k hk
    omega

/-- Among more steps than places between the ends one stays in its place. -/
theorem Times.loop (h : Forward size step) (hn : Times step n i j) (hlt : j - i < n) :
    ∃ k a b, n = a + b + 1 ∧ Times step a i k ∧ step k k ∧ Times step b k j := by
  induction n generalizing i with
  | zero => omega
  | succ n ih =>
    obtain ⟨k, hk, hn⟩ := hn
    by_cases heq : k = i
    · subst heq
      exact ⟨k, 0, n, by omega, rfl, hk, hn⟩
    · have hik := h i k hk
      have hkj := h.times n k j hn
      obtain ⟨l, a, b, rfl, ha, hl, hb⟩ := ih hn (by omega)
      exact ⟨l, a + 1, b, by omega, ⟨k, hk, ha⟩, hl, hb⟩

/-- That step can be left out. -/
theorem Times.less (h : Forward size step) (hn : Times step (n + 1) i j) (hle : j - i ≤ n) :
    Times step n i j := by
  obtain ⟨k, a, b, heq, ha, -, hb⟩ := hn.loop h (by omega)
  obtain rfl : n = a + b := by omega
  exact times_add.mpr ⟨k, ha, hb⟩

/-- It can be made twice as well. -/
theorem Times.more (h : Forward size step) (hn : Times step n i j) (hlt : j - i < n) :
    Times step (n + 1) i j := by
  obtain ⟨k, a, b, rfl, ha, hk, hb⟩ := hn.loop h hlt
  have hloop : Times step (b + 1 + 1) k j := ⟨k, hk, k, hk, hb⟩
  rw [show a + b + 1 + 1 = a + (b + 1 + 1) by omega]
  exact times_add.mpr ⟨k, ha, hloop⟩

/-- Where there are more steps than places, their number makes no difference. -/
theorem Times.change (h : Forward size step) (hm : Times step m i j) (hlt : size < m)
    (hlt' : size < n) : Times step n i j := by
  have hij := h.times m i j hm
  rcases Nat.le_total m n with hle | hle
  · induction n, hle using Nat.le_induction with
    | base => exact hm
    | succ n hle ih => exact (ih (by omega)).more h (by omega)
  · induction m, hle using Nat.le_induction with
    | base => exact hm
    | succ m hle ih => exact ih (hm.less h (by omega)) (by omega)

/-! ## Growth -/

/-- A function on sets of places that takes each place along the steps. -/
def Follows (next : Places → Places) (step : Nat → Nat → Prop) : Prop :=
  ∀ places j, j ∈ next places ↔ ∃ i ∈ places, step i j

variable {next : Places → Places}

theorem Follows.repeat (h : Follows next step) (n : Nat) :
    Follows (Nat.repeat next n) (Times step n) := by
  induction n with
  | zero =>
    intro places j
    simp [Nat.repeat, Times]
  | succ n ih =>
    intro places k
    rw [Nat.repeat, h]
    simp only [ih places, times_add, times_one]
    constructor
    · rintro ⟨j, ⟨i, hi, hj⟩, hk⟩
      exact ⟨i, hi, j, hj, hk⟩
    · rintro ⟨i, hi, j, hj, hk⟩
      exact ⟨j, ⟨i, hi, hj⟩, hk⟩

/-- A set that no step leaves is not left by any number of steps. -/
theorem Times.mem_of_closed {places : Places} (hclosed : ∀ i ∈ places, ∀ j, step i j → j ∈ places)
    (hi : i ∈ places) (hn : Times step n i j) : j ∈ places := by
  induction n generalizing i with
  | zero => exact hn ▸ hi
  | succ n ih =>
    obtain ⟨k, hk, hn⟩ := hn
    exact ih (hclosed i hi k hk) hn

/-- From a set of places that is only left from its last layer, growth meets what at most so
many steps reach. -/
theorem mem_grow (h : Follows next step) (rounds : Nat) {seen layer : Places}
    (hlayer : ∀ i ∈ layer, i ∈ seen)
    (hseen : ∀ i ∈ seen, i ∉ layer → ∀ j, step i j → j ∈ seen) (j : Nat) :
    j ∈ grow next rounds seen layer ↔ ∃ n ≤ rounds, ∃ i ∈ seen, Times step n i j := by
  induction rounds generalizing seen layer with
  | zero => simp [grow, Times]
  | succ rounds ih =>
    rw [grow]
    have hmet : ∀ x, x ∈ (next layer).toList.filter (!seen.contains ·) ↔
        (∃ i ∈ layer, step i x) ∧ x ∉ seen := by
      intro x
      rw [List.mem_filter, Std.ExtTreeSet.mem_toList, h layer x, Bool.not_eq_true',
        ← Std.ExtTreeSet.contains_iff_mem, Bool.not_eq_true]
    generalize (next layer).toList.filter (!seen.contains ·) = met at hmet
    have hnext : ∀ i ∈ seen, ∀ x, step i x → x ∈ seen ∨ x ∈ met := by
      intro i hi x hx
      by_cases hmem : x ∈ seen
      · exact .inl hmem
      · by_cases hlast : i ∈ layer
        · exact .inr ((hmet x).mpr ⟨⟨i, hlast, hx⟩, hmem⟩)
        · exact .inl (hseen i hi hlast x hx)
    split
    · rename_i hempty
      obtain rfl : met = [] := List.isEmpty_iff.mp hempty
      constructor
      · intro hj
        exact ⟨0, Nat.zero_le _, j, hj, rfl⟩
      · rintro ⟨n, -, i, hi, hn⟩
        refine hn.mem_of_closed (fun a ha b hb => ?_) hi
        exact (hnext a ha b hb).resolve_right List.not_mem_nil
    · have hmore : ∀ x, x ∈ seen.insertMany met ↔ x ∈ met ∨ x ∈ seen := by
        intro x
        rw [Std.ExtTreeSet.mem_insertMany_list, List.contains_iff_mem, or_comm]
      have hnew : ∀ x, x ∈ Std.ExtTreeSet.ofList met ↔ x ∈ met := by
        intro x
        rw [Std.ExtTreeSet.mem_ofList, List.contains_iff_mem]
      rw [ih]
      · constructor
        · rintro ⟨n, hle, i, hi, hn⟩
          rcases (hmore i).mp hi with hi | hi
          · obtain ⟨⟨a, ha, hstep⟩, -⟩ := (hmet i).mp hi
            exact ⟨n + 1, by omega, a, hlayer a ha, i, hstep, hn⟩
          · exact ⟨n, by omega, i, hi, hn⟩
        · rintro ⟨_ | n, hle, i, hi, hn⟩
          · exact ⟨0, Nat.zero_le _, i, (hmore i).mpr (.inr hi), hn⟩
          · obtain ⟨k, hk, hn⟩ := hn
            exact ⟨n, by omega, k, (hmore k).mpr (hnext i hi k hk).symm, hn⟩
      · intro i hi
        exact (hmore i).mpr (.inl ((hnew i).mp hi))
      · intro i hi hlast x hx
        have hold : i ∈ seen := ((hmore i).mp hi).resolve_left (mt (hnew i).mpr hlast)
        exact (hmore x).mpr (hnext i hold x hx).symm

end

/-! ## Patterns -/

/-- No repetition asks for more than it admits. -/
def Proper : Pattern → Prop
  | empty | one _ | look _ => True
  | seq a b | alt a b => a.Proper ∧ b.Proper
  | repetition inner least most => inner.Proper ∧ ∀ m, most = some m → least ≤ m

variable {text : Array Char}

theorem forward_matches (p : Pattern) : Forward text.size (p.Matches text) := by
  induction p with
  | empty =>
    rintro i j rfl
    exact ⟨Nat.le_refl i, Nat.le_max_left i text.size⟩
  | one s =>
    rintro i j ⟨rfl, c, hc, -⟩
    have hlt : i < text.size := (Array.getElem?_eq_some_iff.mp hc).1
    omega
  | look l =>
    rintro i j ⟨rfl, -⟩
    exact ⟨Nat.le_refl i, Nat.le_max_left i text.size⟩
  | seq a b iha ihb =>
    rintro i k ⟨j, hj, hk⟩
    have hij := iha i j hj
    have hjk := ihb j k hk
    omega
  | alt a b iha ihb =>
    rintro i j (hj | hj)
    · exact iha i j hj
    · exact ihb i j hj
  | repetition inner least most ih =>
    rintro i j ⟨n, -, -, hn⟩
    exact ih.times n i j hn

/-- What a repetition within some counts reaches is what growth meets, although counts beyond
the length of the text are cut down. -/
theorem mem_repetition {next : Places → Places} {step : Nat → Nat → Prop} {size least : Nat}
    {most : Option Nat} (h : Follows next step) (hforward : Forward size step)
    (hproper : ∀ m, most = some m → least ≤ m) (places : Places) (j : Nat) :
    let first := Nat.repeat next (min least (size + 1)) places
    j ∈ grow next (most.elim (size + 1) fun m => min (m - least) (size + 1)) first first ↔
      ∃ i ∈ places, ∃ n, least ≤ n ∧ (∀ m, most = some m → n ≤ m) ∧ Times step n i j := by
  intro first
  rw [mem_grow h _ (fun _ hi => hi) (fun _ hi hout => absurd hi hout)]
  simp only [first, h.repeat _ places _]
  constructor
  · rintro ⟨n, hn, k, ⟨i, hi, hik⟩, hkj⟩
    have htimes := times_add.mpr ⟨k, hik, hkj⟩
    refine ⟨i, hi, max (min least (size + 1) + n) least, by omega, ?_, ?_⟩
    · rintro m rfl
      have hle := hproper m rfl
      rw [Option.elim_some] at hn
      omega
    · by_cases heq : min least (size + 1) + n = max (min least (size + 1) + n) least
      · exact heq ▸ htimes
      · exact htimes.change hforward (by omega) (by omega)
  · rintro ⟨i, hi, n, hleast, hmost, htimes⟩
    have hcut : Times step (min least (size + 1) + min (n - least) (size + 1)) i j := by
      by_cases heq : n = min least (size + 1) + min (n - least) (size + 1)
      · exact heq ▸ htimes
      · exact htimes.change hforward (by omega) (by omega)
    obtain ⟨k, hik, hkj⟩ := times_add.mp hcut
    refine ⟨_, ?_, k, ⟨i, hi, hik⟩, hkj⟩
    cases most with
    | none => exact Nat.min_le_right _ _
    | some m =>
      have hle := hmost m rfl
      rw [Option.elim_some]
      omega

/-- A pattern leads to the places where its matches end. -/
theorem follows_ends {p : Pattern} (h : p.Proper) : Follows (p.ends text) (p.Matches text) := by
  induction p with
  | empty =>
    intro places j
    simp [ends, Matches]
  | one s =>
    intro places j
    simp only [ends, Matches, Std.ExtTreeSet.mem_ofList, List.contains_iff_mem, List.mem_filterMap,
      Std.ExtTreeSet.mem_toList]
    refine exists_congr fun i => and_congr_right fun _ => ?_
    cases text[i]? with
    | none => simp
    | some c =>
      rw [Option.any_some]
      constructor
      · intro h
        split at h
        · rename_i hc
          exact ⟨(Option.some.inj h).symm, c, rfl, hc⟩
        · exact nomatch h
      · rintro ⟨rfl, d, hd, hc⟩
        obtain rfl := Option.some.inj hd
        exact if_pos hc
  | look l =>
    intro places j
    simp only [ends, Matches, Std.ExtTreeSet.mem_filter, Std.ExtTreeSet.get_eq, exists_prop]
    constructor
    · rintro ⟨hj, hl⟩
      exact ⟨j, hj, rfl, hl⟩
    · rintro ⟨i, hi, rfl, hl⟩
      exact ⟨hi, hl⟩
  | seq a b iha ihb =>
    intro places k
    rw [ends, ihb h.2]
    simp only [iha h.1 places _, Matches]
    constructor
    · rintro ⟨j, ⟨i, hi, hj⟩, hk⟩
      exact ⟨i, hi, j, hj, hk⟩
    · rintro ⟨i, hi, j, hj, hk⟩
      exact ⟨j, ⟨i, hi, hj⟩, hk⟩
  | alt a b iha ihb =>
    intro places j
    rw [ends, Std.ExtTreeSet.mem_insertMany_list, List.contains_iff_mem,
      Std.ExtTreeSet.mem_toList, iha h.1, ihb h.2]
    simp only [Matches, and_or_left, exists_or]
  | repetition inner least most ih =>
    intro places j
    rw [ends]
    exact mem_repetition (ih h.1) (forward_matches inner) h.2 places j

/-- A pattern matches some part of a text exactly if its language does. -/
theorem isMatch_iff {p : Pattern} (h : p.Proper) (text : String) :
    p.isMatch text = true ↔
      ∃ i j, i ≤ text.toList.length ∧ p.Matches text.toList.toArray i j := by
  have hstart : ∀ i, i ∈ Std.ExtTreeSet.ofList (List.range (text.toList.toArray.size + 1)) ↔
      i ≤ text.toList.length := by
    intro i
    rw [Std.ExtTreeSet.mem_ofList, List.contains_iff_mem, List.mem_range, List.size_toArray,
      Nat.lt_succ_iff]
  rw [isMatch, Bool.not_eq_true', Std.ExtTreeSet.isEmpty_eq_false_iff,
    Std.ExtTreeSet.eq_empty_iff_forall_not_mem, Classical.not_forall]
  simp only [Classical.not_not, follows_ends h _ _, hstart]
  exact exists_comm

end Worksheet.Pattern
