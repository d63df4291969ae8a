import Worksheet.Proofs.Pattern.Whole
import Worksheet.Validation

/- Worksheet Validation and Patterns — what a field says about a text and its pattern.

   A pattern by itself is none, or it accepts the text from end to end or does not, and that
   should be the verdict on the text. The field asks a longer text, which holds the pattern in
   a group between anchors. With every engine that keeps the laws of patterns, it gives the
   verdict of the pattern itself except for two kinds of patterns: those that end in a comment,
   which swallows the end of the group, and those that close the group early and open another
   one, so that the text around them makes a pattern of what is none
   (`Field.issues_pattern_iff`). -/
namespace Worksheet

variable {engine : PatternEngine} {meaning : PatternMeaning} {id p s : String}

/-- What is to be said about a text by its pattern alone. -/
inductive PatternVerdict (engine : PatternEngine) (meaning : PatternMeaning) (id p s : String) :
    List Violation → Prop where
  | invalid (h : ¬ engine.Compiles p) : PatternVerdict engine meaning id p s [.invalidPattern id p]
  | mismatch (h : engine.Compiles p) (hs : ¬ meaning.Accepts p s) :
    PatternVerdict engine meaning id p s [.patternMismatch p]
  | accepted (h : engine.Compiles p) (hs : meaning.Accepts p s) :
    PatternVerdict engine meaning id p s []

theorem checkPattern_of_not_compiles (h : ¬ engine.Compiles (wholePattern p)) :
    checkPattern engine id (some p) s = [.invalidPattern id p] := by
  rw [checkPattern, PatternEngine.not_compiles_iff.mp h]

/-- A verdict on what is no pattern is that it is none. -/
theorem PatternVerdict.not_compiles
    (h : PatternVerdict engine meaning id p s (checkPattern engine id (some p) s))
    (hp : ¬ engine.Compiles p) : ¬ engine.Compiles (wholePattern p) := by
  rintro ⟨test, htest⟩
  rw [checkPattern, htest] at h
  dsimp only at h
  split_ifs at h
  · cases h with
    | accepted h _ => exact hp h
  · cases h with
    | mismatch h _ => exact hp h

/-- Where the pattern can be put into a group, the verdict is its own. -/
theorem checkPattern_of_groups (h : engine.Follows meaning) (hp : meaning.Groups engine p) :
    PatternVerdict engine meaning id p s (checkPattern engine id (some p) s) := by
  obtain ⟨test, htest⟩ := (h.start p hp).1
  have hfound : test s = true ↔ meaning.Accepts p s := h.found_iff_accepts hp htest s
  rw [checkPattern, wholePattern, htest]
  dsimp only
  split_ifs with hs
  · exact .accepted hp.compiles (hfound.mp hs)
  · exact .mismatch hp.compiles (mt hfound.mpr hs)

theorem checkPattern_verdict_iff (h : engine.Follows meaning) (hp : meaning.Roomy p) :
    PatternVerdict engine meaning id p s (checkPattern engine id (some p) s) ↔
      ¬ engine.EndsInComment p ∧
        (engine.Overcloses p → ¬ engine.Compiles (wholePattern p)) := by
  constructor
  · intro hverdict
    refine ⟨fun hcomment => ?_, fun hclose => hverdict.not_compiles hclose.1⟩
    rw [checkPattern_of_not_compiles (h.comment p hcomment)] at hverdict
    cases hverdict with
    | invalid hnone => exact hnone hcomment.1
  · rintro ⟨hcomment, hclose⟩
    by_cases hcompiles : engine.Compiles p
    · exact checkPattern_of_groups h ⟨hcompiles, hcomment, hp⟩
    · have hwhole : ¬ engine.Compiles (wholePattern p) := by
        intro hwhole
        have hmem : ')' ∈ p.toList := (h.parenthesis p hwhole).resolve_left hcompiles
        exact hclose ⟨hcompiles, hmem⟩ hwhole
      rw [checkPattern_of_not_compiles hwhole]
      exact .invalid hcompiles

namespace Field

/-- For every engine that keeps the laws of patterns, every field with a pattern that is within
the limits, and every text: the field reports the verdict of the pattern alone exactly if the
pattern does not end in a comment and, if it is none but for a parenthesis that may close the
group around it, the text around it does not make a pattern of it. -/
theorem issues_pattern_iff (h : engine.Follows meaning) (info : FieldInfo)
    (default : Option String) (p s : String) (hp : meaning.Roomy p) :
    (∃ vs, PatternVerdict engine meaning info.id p s vs ∧
      (item info (.text default (some p) none)).issuesWith engine (.text s) =
        vs.map fun v => ⟨info.id, info.reference, v⟩) ↔
      ¬ engine.EndsInComment p ∧
        (engine.Overcloses p → ¬ engine.Compiles (wholePattern p)) := by
  rw [← checkPattern_verdict_iff h hp]
  let issue (v : Violation) : Issue := ⟨info.id, info.reference, v⟩
  have hissues : (item info (.text default (some p) none)).issuesWith engine (.text s) =
      (checkPattern engine info.id (some p) s).map issue := rfl
  have hissue : Function.Injective issue := fun v w heq => (Issue.mk.inj heq).2.2
  rw [hissues]
  constructor
  · rintro ⟨vs, hverdict, heq⟩
    exact (List.map_inj_right fun _ _ heq => hissue heq).mp heq ▸ hverdict
  · intro hverdict
    exact ⟨_, hverdict, rfl⟩

/-- The engine that runs keeps the laws, and three digits are within its limits. -/
theorem issues_pattern_iff_of_digits :
    (∃ vs, PatternVerdict .standard .standard "t" "[0-9]{3}" "12a" vs ∧
      (item (infoOf "t") (.text none (some "[0-9]{3}") none)).issues (.text "12a") =
        vs.map fun v => ⟨"t", none, v⟩) ↔
    ¬ PatternEngine.standard.EndsInComment "[0-9]{3}" ∧
      (PatternEngine.standard.Overcloses "[0-9]{3}" →
        ¬ PatternEngine.standard.Compiles (wholePattern "[0-9]{3}")) := by
  have hroomy : PatternMeaning.standard.Roomy "[0-9]{3}" :=
    Pattern.withinLimits_iff.mpr (by decide +kernel)
  exact issues_pattern_iff PatternEngine.follows_standard (infoOf "t") none "[0-9]{3}" "12a" hroomy

/-- The first pattern closes the group around it and opens another one: it is none, but the
field has no objection. The second ends in a comment: it accepts the text, but the field reports
that it is none. -/
theorem issues_of_escaped_group :
    ¬ PatternEngine.standard.Compiles "a)|(b" ∧
      (item (infoOf "t") (.text none (some "a)|(b") none)).issues (.text "a") = [] ∧
      PatternEngine.standard.Compiles "(?x)a#b" ∧
      PatternMeaning.standard.Accepts "(?x)a#b" "a" ∧
      ((item (infoOf "t") (.text none (some "(?x)a#b") none)).issues (.text "a")).map Issue.display =
        ["t: Invalid pattern '(?x)a#b' on field t: "] := by
  have hnone : PatternEngine.standard.compile "a)|(b" = none :=
    Option.isNone_iff_eq_none.mp (by decide +kernel)
  have hfound : (Pattern.parse? "(?x)a#b").any (fun q => q.fits && (q.held true).isMatch "a") =
      true := by decide +kernel
  obtain ⟨q, hq, hmatch⟩ := (Option.any_eq_true _ _).mp hfound
  obtain ⟨hfits, hmatch⟩ := (Bool.and_eq_true _ _).mp hmatch
  have hproper : (q.held true).Proper := ⟨trivial, Pattern.parse?_proper hq, trivial, trivial⟩
  obtain ⟨i, j, -, hspans⟩ := (Pattern.isMatch_iff hproper "a").mp hmatch
  obtain ⟨rfl, hspans⟩ := Pattern.matches_held_anchored.mp hspans
  obtain ⟨rfl, hspans⟩ := Pattern.matches_held.mp hspans
  exact ⟨PatternEngine.not_compiles_iff.mpr hnone, by decide +kernel,
    PatternEngine.compiles_iff.mpr ⟨q, hq, hfits⟩, ⟨q, hq, Nat.zero_le _, hspans⟩,
    by decide +kernel⟩

end Field

end Worksheet
