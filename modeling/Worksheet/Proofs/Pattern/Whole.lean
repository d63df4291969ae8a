import Worksheet.Proofs.Pattern.Content
import Worksheet.Proofs.Pattern.Engine

/- Worksheet Whole Patterns — patterns in groups, held to the ends of texts.

   The text of a pattern is put into a group, as text, with a dollar sign after the group and
   perhaps a caret before it. If the pattern can be read by itself, and does not end in a
   comment that swallows the end of the group, what is read is its tree in a group beside
   anchors, and that matches what the pattern matches at the ends of a text. If it cannot be
   read by itself the text with the group cannot be read either, unless the pattern closes the
   group before its end. So the engine that runs keeps the laws of patterns
   (`PatternEngine.follows_standard`). -/
namespace Worksheet

/-! ## Reading -/

namespace PatternTree

open Reader

/-- The caret before a group, if there is one. -/
def caret (anchored : Bool) : List PatternTree := if anchored then [.anchor .lineStart] else []

/-- The tree of a pattern in a group with a dollar sign after it, and perhaps a caret before
it. -/
def held (anchored : Bool) (t : PatternTree) : PatternTree :=
  .concat (caret anchored ++ [.group ⟨[], []⟩ t, .anchor .lineEnd])

theorem held_depth (anchored : Bool) (t : PatternTree) : (t.held anchored).depth = t.depth + 2 := by
  cases anchored <;> simp [held, caret, depth, depthAll]

/-- A whole pattern in so many steps. -/
def pattern (fuel : Nat) : Reader (PatternTree × List String) := inside fuel false [] [] []

theorem parse?_eq_some_iff {cs : List Char} {t : PatternTree} :
    parse? cs = some t ↔
      (∃ names, pattern (cs.length + 1) cs = some ((t, names), [])) ∧ t.depth ≤ nestingLimit := by
  rw [parse?, pattern, inside]
  constructor
  · intro h
    split at h
    · rename_i t' names heq
      split_ifs at h with hdepth
      cases h
      rw [heq]
      exact ⟨⟨names, rfl⟩, hdepth⟩
    · cases h
  · rintro ⟨⟨names, h⟩, hdepth⟩
    obtain ⟨⟨t', names', rest⟩, heq, h⟩ := Option.map_eq_some_iff.mp h
    cases h
    rw [heq]
    exact if_pos hdepth

/-- What is read to its end is a pattern, within the limit on nesting. -/
theorem parse?_of_pattern {cs : List Char} {t : PatternTree} {names : List String}
    (h : pattern (cs.length + 1) cs = some ((t, names), [])) :
    parse? cs = if t.depth ≤ nestingLimit then some t else none := by
  refine Option.ext fun t' => ?_
  rw [parse?_eq_some_iff, h, Option.ite_none_right_eq_some, Option.some.injEq]
  constructor
  · rintro ⟨⟨names', heq⟩, hdepth⟩
    cases heq
    exact ⟨hdepth, rfl⟩
  · rintro ⟨hdepth, rfl⟩
    exact ⟨⟨names, rfl⟩, hdepth⟩

/-- What is not read to its end is no pattern. -/
theorem parse?_eq_none {cs : List Char} (h : ∀ r, pattern (cs.length + 1) cs ≠ some (r, [])) :
    parse? cs = none := by
  refine Option.eq_none_iff_forall_ne_some.mpr fun t ht => ?_
  obtain ⟨⟨names, ht⟩, -⟩ := parse?_eq_some_iff.mp ht
  exact h (t, names) ht

/-- A text in a group with a dollar sign after it, and perhaps a caret before it. -/
def wrapped (anchored : Bool) (cs : List Char) : List Char :=
  (if anchored then ['^'] else []) ++ '(' :: '?' :: ':' :: (cs ++ closing)

/-- The group ends with the first parenthesis that the content leaves. -/
theorem inside_group (fuel : Nat) (parts : List PatternTree) (cs : List Char) :
    inside (fuel + 1) false [] [] parts ('(' :: '?' :: ':' :: (cs ++ closing)) =
      (pattern fuel (cs ++ closing)).bind fun r =>
        next (fun c =>
          if c = ')' then inside fuel false r.1.2 [] (.group ⟨[], []⟩ r.1.1 :: parts) else fail)
          r.2 := by
  have hopen (rest : List Char) :
      openGroup false ('?' :: ':' :: rest) = some (.group ⟨[], []⟩ none, rest) := rfl
  rw [inside_succ]
  change Reader.bind (openGroup false) (grouped (inside fuel) false [] [] parts)
    ('?' :: ':' :: (cs ++ closing)) = _
  rw [Reader.bind, hopen]
  rfl

/-- The reserve for a text in a group is what reading the text with the closing needs. -/
theorem pattern_wrapped (anchored : Bool) (cs : List Char) :
    pattern ((wrapped anchored cs).length + 1) (wrapped anchored cs) =
      (pattern (cs.length + 1 + 4) (cs ++ closing)).bind fun r =>
        next (fun c =>
          if c = ')' then
            inside (cs.length + 1 + 4) false r.1.2 [] (.group ⟨[], []⟩ r.1.1 :: caret anchored)
          else fail) r.2 := by
  cases anchored with
  | false =>
    have hlength : (wrapped false cs).length + 1 = cs.length + 1 + 4 + 1 := by
      simp [wrapped, closing]
    rw [hlength]
    exact inside_group (cs.length + 1 + 4) [] cs
  | true =>
    have hlength : (wrapped true cs).length + 1 = cs.length + 1 + 4 + 2 := by
      simp [wrapped, closing]
    rw [hlength, pattern, inside_succ]
    exact inside_group (cs.length + 1 + 4) [.anchor .lineStart] cs

theorem inside_dollar (fuel : Nat) (names : List String) (parts : List PatternTree) :
    inside (fuel + 2) false names [] parts ['$'] =
      some ((finish [] (.anchor .lineEnd :: parts), names), []) := by
  rw [inside_succ]
  change inside (fuel + 1) false names [] (.anchor .lineEnd :: parts) [] = _
  rw [inside_succ]
  rfl

/-! ## Alone and in the group -/

/-- Texts that are left at the dollar or after it. -/
def AtDollar (cs : List Char) : Prop := cs <:+ ['$']

theorem spent_atDollar : Spent AtDollar := ⟨List.suffix_rfl, fun h hcs => h.trans hcs⟩

theorem pattern_steady (extra fuel : Nat) :
    Steady AtDollar fuel ProperContent (pattern fuel) (pattern (fuel + extra)) :=
  inside_steady spent_atDollar extra fuel _ _ _ _ (List.forall_mem_nil _) (List.forall_mem_nil _)

theorem parse?_proper {cs : List Char} {t : PatternTree} (h : parse? cs = some t) : t.Proper := by
  obtain ⟨⟨names, hcs⟩, -⟩ := parse?_eq_some_iff.mp h
  exact ((pattern_steady 0 (cs.length + 1)).sound cs (t, names) [] hcs).2

/-- What is read of a text with the closing after it, and so many steps in reserve. -/
theorem pattern_carried (cs : List Char) (extra : Nat) :
    Carried AtDollar (pattern (cs.length + 1) cs)
      (pattern (cs.length + 1 + extra) (cs ++ closing)) :=
  (pattern_steady extra (cs.length + 1)).carried (Nat.lt_succ_self cs.length)

/-- A greater reserve does not change what becomes of the closing. -/
theorem pattern_reserve {cs : List Char} {r : PatternTree × List String}
    (h : pattern (cs.length + 1) cs = some (r, [])) :
    pattern (cs.length + 1 + 4) (cs ++ closing) = pattern (cs.length + 1 + 2) (cs ++ closing) := by
  have hextends {r : (PatternTree × List String) × List Char} :=
    inside_extends false [] [] [] (cs.length + 1 + 2) 2 (cs ++ closing) r
  have hcarried := pattern_carried cs 2
  rw [h] at hcarried
  rcases hcarried with hleft | ⟨-, hleft⟩
  · exact (hextends hleft).trans hleft.symm
  · exact (hextends hleft).trans hleft.symm

/-- A comment at the end swallows the closing, so that the text is read as it is without it. -/
theorem parse?_closing_iff {cs : List Char} {t : PatternTree} (h : parse? cs = some t)
    (t' : PatternTree) :
    parse? (cs ++ closing) = some t' ↔
      t' = t ∧ ∃ r, pattern (cs.length + 1 + 4) (cs ++ closing) = some (r, []) := by
  obtain ⟨⟨names, hcs⟩, hdepth⟩ := parse?_eq_some_iff.mp h
  have hlength : (cs ++ closing).length + 1 = cs.length + 1 + 2 := by simp [closing]
  rw [parse?_eq_some_iff, hlength, pattern_reserve hcs]
  have hcarried := pattern_carried cs 2
  rw [hcs] at hcarried
  rcases hcarried with hleft | ⟨-, hleft⟩
  · rw [hleft]
    simp [closing]
  · rw [hleft]
    constructor
    · rintro ⟨⟨names', heq⟩, -⟩
      cases heq
      exact ⟨rfl, _, rfl⟩
    · rintro ⟨rfl, -⟩
      exact ⟨⟨names, rfl⟩, hdepth⟩

variable {anchored : Bool}

/-- Nothing is read where no parenthesis is left for the group. -/
theorem parse?_wrapped_eq_none {cs : List Char}
    (h : ∀ r rest, pattern (cs.length + 1 + 4) (cs ++ closing) = some (r, ')' :: rest) → False) :
    parse? (wrapped anchored cs) = none := by
  refine parse?_eq_none fun read ht => ?_
  rw [pattern_wrapped] at ht
  obtain ⟨⟨r, rest⟩, hr, ht⟩ := Option.bind_eq_some_iff.mp ht
  cases rest with
  | nil => cases ht
  | cons c rest =>
    rw [next] at ht
    split_ifs at ht with hc
    · exact h r rest (hc ▸ hr)
    · cases ht

/-- A text that cannot be read by itself cannot be read in a group either. -/
theorem parse?_wrapped_of_none {cs : List Char} (h : pattern (cs.length + 1) cs = none) :
    parse? (wrapped anchored cs) = none := by
  refine parse?_wrapped_eq_none fun r rest hr => ?_
  have hcarried := pattern_carried cs 4
  rw [h] at hcarried
  have hsuffix : ')' :: rest <:+ ['$'] := hcarried r _ hr
  exact absurd (hsuffix.mem List.mem_cons_self) (by decide)

/-- The end of the group is missed where a comment has swallowed it. -/
theorem parse?_wrapped_of_swallowed {cs : List Char} {r : PatternTree × List String}
    (h : pattern (cs.length + 1 + 4) (cs ++ closing) = some (r, [])) :
    parse? (wrapped anchored cs) = none :=
  parse?_wrapped_eq_none fun _ _ hr => nomatch h.symm.trans hr

/-- A text that is read to its end is held by the group, if the end of the group is left. -/
theorem parse?_wrapped_of_left {cs : List Char} {t : PatternTree} {names : List String}
    (h : pattern (cs.length + 1 + 4) (cs ++ closing) = some ((t, names), closing)) :
    parse? (wrapped anchored cs) =
      if t.depth + 2 ≤ nestingLimit then some (t.held anchored) else none := by
  have hread : pattern ((wrapped anchored cs).length + 1) (wrapped anchored cs) =
      some ((t.held anchored, names), []) := by
    rw [pattern_wrapped, h]
    have hdollar := inside_dollar (cs.length + 3) names (.group ⟨[], []⟩ t :: caret anchored)
    cases anchored <;> exact hdollar
  rw [parse?_of_pattern hread, held_depth]

end PatternTree

/-! ## Meaning -/

namespace Pattern

open PatternTree (wrapped closing nestingLimit)

/-- A pattern held to the end of the text, and perhaps to its start. -/
def held (anchored : Bool) (q : Pattern) : Pattern :=
  let last := .seq q (.seq (.look .textEnd) .empty)
  if anchored then .seq (.look .textStart) last else last

theorem matches_held {q : Pattern} {text : Array Char} {i j : Nat} :
    (q.held false).Matches text i j ↔ j = text.size ∧ q.Matches text i j := by
  simp only [held, Bool.false_eq_true, if_false, Matches, Look.holds, beq_iff_eq]
  constructor
  · rintro ⟨k, hq, l, ⟨rfl, hk⟩, rfl⟩
    exact ⟨hk, hq⟩
  · rintro ⟨hj, hq⟩
    exact ⟨j, hq, j, ⟨rfl, hj⟩, rfl⟩

theorem matches_held_anchored {q : Pattern} {text : Array Char} {i j : Nat} :
    (q.held true).Matches text i j ↔ i = 0 ∧ (q.held false).Matches text i j := by
  have heq : q.held true = .seq (.look .textStart) (q.held false) := rfl
  rw [heq, Matches]
  constructor
  · rintro ⟨k, ⟨rfl, hk⟩, hq⟩
    exact ⟨beq_iff_eq.mp hk, hq⟩
  · rintro ⟨rfl, hq⟩
    exact ⟨0, ⟨rfl, rfl⟩, hq⟩

/-- What stands around a pattern does not make it smaller. -/
theorem fits_of_held {q : Pattern} (h : (q.held true).fits = true) : q.fits = true := by
  have hsize : q.size ≤ (q.held true).size := by
    rw [held, if_pos rfl]
    cases q <;> simp [size] <;> omega
  rw [fits, decide_eq_true_iff] at h ⊢
  omega

theorem ofTree_held (anchored : Bool) (t : PatternTree) :
    (ofTree .initial (t.held anchored)).map Prod.fst =
      (ofTree .initial t).map fun r => r.1.held anchored := by
  have hinitial : PatternFlags.initial.change ⟨[], []⟩ = .initial := rfl
  cases anchored <;> cases h : ofTree .initial t with
  | none => simp [PatternTree.held, PatternTree.caret, ofTree, ofParts, hinitial, h]
  | some r =>
    simp [PatternTree.held, PatternTree.caret, ofTree, ofParts, hinitial, h]
    rfl

/-- The text of a pattern in a group. -/
def wrap (anchored : Bool) (p : String) : String :=
  (if anchored then "^(?:" else "(?:") ++ p ++ ")$"

theorem wrap_toList (anchored : Bool) (p : String) :
    (wrap anchored p).toList = wrapped anchored p.toList := by
  rw [wrap, String.toList_append, String.toList_append]
  cases anchored <;> rfl

theorem parse?_eq (p : String) :
    parse? p = (PatternTree.parse? p.toList).bind fun t => (ofTree .initial t).map Prod.fst := by
  rw [parse?]
  refine congrArg _ (funext fun t => ?_)
  cases ofTree .initial t <;> rfl

theorem parse?_proper {p : String} {q : Pattern} (h : parse? p = some q) : q.Proper := by
  rw [parse?_eq] at h
  obtain ⟨t, ht, hq⟩ := Option.bind_eq_some_iff.mp h
  obtain ⟨⟨q', f⟩, hq', rfl⟩ := Option.map_eq_some_iff.mp hq
  exact ofTree_proper t (PatternTree.parse?_proper ht) hq'

/-- The limits on patterns are not met, by the pattern or by what is written around it. -/
def WithinLimits (p : String) : Prop :=
  ∀ t, PatternTree.parse? p.toList = some t → t.depth + 2 ≤ nestingLimit ∧
    ∀ r, ofTree .initial t = some r → ∀ anchored, (r.1.held anchored).fits = true

theorem withinLimits_iff {p : String} :
    WithinLimits p ↔
      ((PatternTree.parse? p.toList).all fun t => t.depth + 2 ≤ nestingLimit &&
        (ofTree .initial t).all fun r => (r.1.held false).fits && (r.1.held true).fits) = true := by
  simp only [WithinLimits, Option.all_eq_true, Bool.and_eq_true, decide_eq_true_iff,
    Bool.forall_bool]

theorem parse?_wrap_of_none {anchored : Bool} {p : String}
    (h : PatternTree.parse? (wrapped anchored p.toList) = none) :
    parse? (wrap anchored p) = none := by
  rw [parse?_eq, wrap_toList, h]
  rfl

/-- The text around a pattern that ends in a comment cannot be read. -/
theorem parse?_wrap_of_closing {anchored : Bool} {p : String} {q q' : Pattern}
    (hq : parse? p = some q) (hclosing : parse? (p ++ ")$") = some q') :
    parse? (wrap anchored p) = none := by
  rw [parse?_eq] at hq hclosing
  obtain ⟨t, ht, -⟩ := Option.bind_eq_some_iff.mp hq
  obtain ⟨t', ht', -⟩ := Option.bind_eq_some_iff.mp hclosing
  rw [String.toList_append] at ht'
  obtain ⟨-, r, hr⟩ := (PatternTree.parse?_closing_iff ht t').mp ht'
  exact parse?_wrap_of_none (PatternTree.parse?_wrapped_of_swallowed hr)

/-- What follows a pattern makes no difference to it where it is swallowed. -/
theorem parse?_closing_of_swallowed {p : String} {q : Pattern} (hq : parse? p = some q)
    {r : PatternTree × List String}
    (h : PatternTree.pattern (p.toList.length + 1 + 4) (p.toList ++ closing) = some (r, [])) :
    parse? (p ++ ")$") = some q := by
  rw [parse?_eq] at hq
  obtain ⟨t, ht, hq⟩ := Option.bind_eq_some_iff.mp hq
  rw [parse?_eq, String.toList_append]
  exact Option.bind_eq_some_iff.mpr
    ⟨t, (PatternTree.parse?_closing_iff ht t).mpr ⟨rfl, r, h⟩, hq⟩

/-- Where the end of the group is left, the pattern is held by it as far as nesting admits. -/
theorem parse?_wrap_of_left {anchored : Bool} {p : String} {t : PatternTree} {names : List String}
    (h : PatternTree.pattern (p.toList.length + 1 + 4) (p.toList ++ closing) =
      some ((t, names), closing)) :
    parse? (wrap anchored p) =
      if t.depth + 2 ≤ nestingLimit then (ofTree .initial t).map fun r => r.1.held anchored
      else none := by
  rw [parse?_eq, wrap_toList, PatternTree.parse?_wrapped_of_left h]
  split_ifs
  · exact ofTree_held anchored t
  · rfl

end Pattern

/-! ## The engine that runs -/

/-- What patterns mean here. -/
def PatternMeaning.standard : PatternMeaning where
  Spans p s i j := ∃ q, Pattern.parse? p = some q ∧ i ≤ s.length ∧ q.Matches s.toList.toArray i j
  Roomy := Pattern.WithinLimits

namespace PatternEngine

open Pattern (wrap)
open PatternTree (closing nestingLimit)

variable {p : String} {q : Pattern}

theorem compile_eq_some_iff {test : String → Bool} :
    standard.compile p = some test ↔
      ∃ q, Pattern.parse? p = some q ∧ q.fits = true ∧ q.isMatch = test := by
  simp [standard, Option.map_eq_some_iff, Option.filter_eq_some_iff, and_assoc]

theorem compiles_iff :
    standard.Compiles p ↔ ∃ q, Pattern.parse? p = some q ∧ q.fits = true := by
  simp only [Compiles, compile_eq_some_iff]
  constructor
  · rintro ⟨_, q, hq, hfits, -⟩
    exact ⟨q, hq, hfits⟩
  · rintro ⟨q, hq, hfits⟩
    exact ⟨q.isMatch, q, hq, hfits, rfl⟩

/-- A pattern that can be put into a group is read in it. -/
theorem parse?_wrap_of_groups (h : PatternMeaning.standard.Groups standard p) :
    ∃ q, Pattern.parse? p = some q ∧
      ∀ anchored, Pattern.parse? (wrap anchored p) = some (q.held anchored) ∧
        (q.held anchored).fits = true := by
  obtain ⟨q, hq, hfits⟩ := compiles_iff.mp h.compiles
  refine ⟨q, hq, fun anchored => ?_⟩
  have hparse := hq
  rw [Pattern.parse?_eq] at hparse
  obtain ⟨t, ht, htree⟩ := Option.bind_eq_some_iff.mp hparse
  obtain ⟨r, hr, rfl⟩ := Option.map_eq_some_iff.mp htree
  obtain ⟨hdepth, hroom⟩ := h.roomy t ht
  obtain ⟨⟨names, hread⟩, -⟩ := PatternTree.parse?_eq_some_iff.mp ht
  have hcarried := PatternTree.pattern_carried p.toList 4
  rw [hread] at hcarried
  rcases hcarried with hleft | ⟨-, hleft⟩
  · rw [Pattern.parse?_wrap_of_left hleft, if_pos hdepth, hr]
    exact ⟨rfl, hroom r hr anchored⟩
  · refine absurd ⟨h.compiles, compiles_iff.mpr ⟨r.1, ?_, hfits⟩⟩ h.comment
    exact Pattern.parse?_closing_of_swallowed hq hleft

/-- What is no pattern and holds no parenthesis is no pattern in a group either. -/
theorem parenthesis_of_compiles (h : standard.Compiles (wrap true p)) :
    standard.Compiles p ∨ ')' ∈ p.toList := by
  obtain ⟨q, hq, hfits⟩ := compiles_iff.mp h
  have hcarried := PatternTree.pattern_carried p.toList 4
  cases hread : PatternTree.pattern (p.toList.length + 1) p.toList with
  | none =>
    have hnone : Pattern.parse? (wrap true p) = none :=
      Pattern.parse?_wrap_of_none (PatternTree.parse?_wrapped_of_none hread)
    exact nomatch hnone.symm.trans hq
  | some r =>
    obtain ⟨⟨t, names⟩, _ | ⟨c, rest⟩⟩ := r
    · rw [hread] at hcarried
      rcases hcarried with hleft | ⟨-, hleft⟩
      · rw [List.nil_append] at hleft
        rw [Pattern.parse?_wrap_of_left hleft, Option.ite_none_right_eq_some] at hq
        obtain ⟨hdepth, hheld⟩ := hq
        obtain ⟨r, hr, rfl⟩ := Option.map_eq_some_iff.mp hheld
        refine .inl (compiles_iff.mpr ⟨r.1, ?_, Pattern.fits_of_held hfits⟩)
        rw [Pattern.parse?_eq, PatternTree.parse?_of_pattern hread, if_pos (by omega),
          Option.bind_some, hr]
        rfl
      · have hnone : Pattern.parse? (wrap true p) = none :=
          Pattern.parse?_wrap_of_none (PatternTree.parse?_wrapped_of_swallowed hleft)
        exact nomatch hnone.symm.trans hq
    · -- what the content leaves starts with a parenthesis, which is part of the pattern
      obtain rfl := PatternTree.inside_stops false [] [] [] _ _ _ c rest hread
      have hsuffix : ')' :: rest <:+ p.toList :=
        ((PatternTree.pattern_steady 0 _).sound _ _ _ hread).1
      exact .inr (hsuffix.mem List.mem_cons_self)

/-- The engine that runs keeps the laws of patterns. -/
theorem follows_standard : standard.Follows .standard where
  found text test s h := by
    obtain ⟨q, hq, -, rfl⟩ := compile_eq_some_iff.mp h
    rw [Pattern.isMatch_iff (Pattern.parse?_proper hq)]
    simp [PatternMeaning.standard, hq, String.length_toList]
  finish p h := by
    obtain ⟨q, hq, hwrap⟩ := parse?_wrap_of_groups h
    obtain ⟨hparse, hfits⟩ := hwrap false
    refine ⟨compiles_iff.mpr ⟨_, hparse, hfits⟩, fun s i j => ?_⟩
    have hparse' : Pattern.parse? ("(?:" ++ p ++ ")$") = some (q.held false) := hparse
    simp only [PatternMeaning.standard, hq, hparse', Option.some.injEq, exists_eq_left',
      Pattern.matches_held, List.size_toArray, String.length_toList]
    exact and_left_comm
  start p h := by
    obtain ⟨q, hq, hwrap⟩ := parse?_wrap_of_groups h
    obtain ⟨hparse, hfits⟩ := hwrap true
    refine ⟨compiles_iff.mpr ⟨_, hparse, hfits⟩, fun s i j => ?_⟩
    have hparse' : Pattern.parse? ("^(?:" ++ p ++ ")$") = some (q.held true) := hparse
    have hgroup : Pattern.parse? ("(?:" ++ p ++ ")$") = some (q.held false) := (hwrap false).1
    simp only [PatternMeaning.standard, hparse', hgroup, Option.some.injEq, exists_eq_left',
      Pattern.matches_held_anchored]
    exact and_left_comm
  comment p h hwhole := by
    obtain ⟨q, hq, -⟩ := compiles_iff.mp h.1
    obtain ⟨q', hclosing, -⟩ := compiles_iff.mp h.2
    obtain ⟨w, hw, -⟩ := compiles_iff.mp hwhole
    have hnone : Pattern.parse? (wrap true p) = none :=
      Pattern.parse?_wrap_of_closing hq hclosing
    exact nomatch hnone.symm.trans hw
  parenthesis p h := parenthesis_of_compiles h

end PatternEngine

end Worksheet
