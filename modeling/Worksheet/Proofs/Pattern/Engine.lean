import Worksheet.Pattern.Engine

/- Worksheet Pattern Laws — what is relied on of patterns.

   What a pattern matches is a relation on the places of a text (`PatternMeaning`), and an
   engine follows it if it finds what matches somewhere (`PatternEngine.Follows`). The laws
   on texts of patterns are those of groups, anchors and comments: a group matches what is
   inside it, an anchor holds it to an end of the text, a comment swallows what is written
   after it, and a parenthesis that is opened has to be closed. -/
namespace Worksheet

namespace PatternEngine

/-- A text spells out a pattern. -/
def Compiles (engine : PatternEngine) (text : String) : Prop :=
  ∃ test, engine.compile text = some test

/-- A comment at the end of a pattern swallows what is written after it, even a parenthesis
that closes nothing. -/
def EndsInComment (engine : PatternEngine) (p : String) : Prop :=
  engine.Compiles p ∧ engine.Compiles (p ++ ")$")

/-- A text is no pattern, and holds a parenthesis that may close a group around it. -/
def Overcloses (engine : PatternEngine) (p : String) : Prop :=
  ¬ engine.Compiles p ∧ ')' ∈ p.toList

theorem not_compiles_iff {engine : PatternEngine} {text : String} :
    ¬ engine.Compiles text ↔ engine.compile text = none := by
  rw [Option.eq_none_iff_forall_ne_some]
  exact not_exists

end PatternEngine

/-- What patterns mean, as texts. -/
structure PatternMeaning where
  /-- The pattern matches what stands between two places of a text, counted in characters. -/
  Spans (pattern s : String) (first last : Nat) : Prop
  /-- The limits on patterns are not met by the pattern, nor with a group and anchors
  around it. -/
  Roomy (pattern : String) : Prop

/-- The pattern matches a text from end to end. -/
def PatternMeaning.Accepts (meaning : PatternMeaning) (p s : String) : Prop :=
  meaning.Spans p s 0 s.length

/-- A pattern by itself that can be put into a group. -/
structure PatternMeaning.Groups (meaning : PatternMeaning) (engine : PatternEngine) (p : String) :
    Prop where
  compiles : engine.Compiles p
  comment : ¬ engine.EndsInComment p
  roomy : meaning.Roomy p

/-- What engines for patterns agree on. -/
structure PatternEngine.Follows (engine : PatternEngine) (meaning : PatternMeaning) : Prop where
  /-- A pattern is found in a text if it matches any part of it. -/
  found : ∀ text test s, engine.compile text = some test →
    (test s = true ↔ ∃ i j, meaning.Spans text s i j)
  /-- A group matches what is inside it. With a dollar sign after the group, what it matches
  ends where the text does. -/
  finish : ∀ p, meaning.Groups engine p → engine.Compiles ("(?:" ++ p ++ ")$") ∧
    ∀ s i j, meaning.Spans ("(?:" ++ p ++ ")$") s i j ↔ j = s.length ∧ meaning.Spans p s i j
  /-- With a caret before the group, what it matches starts where the text does. -/
  start : ∀ p, meaning.Groups engine p → engine.Compiles ("^(?:" ++ p ++ ")$") ∧
    ∀ s i j, meaning.Spans ("^(?:" ++ p ++ ")$") s i j ↔
      i = 0 ∧ meaning.Spans ("(?:" ++ p ++ ")$") s i j
  /-- A comment swallows the end of the group that it stands in. -/
  comment : ∀ p, engine.EndsInComment p → ¬ engine.Compiles ("^(?:" ++ p ++ ")$")
  /-- What is no pattern is none in a group, unless it holds a parenthesis that closes the
  group. -/
  parenthesis : ∀ p, engine.Compiles ("^(?:" ++ p ++ ")$") → engine.Compiles p ∨ ')' ∈ p.toList

/-- Between both anchors a group is found in the texts that the pattern in it accepts. -/
theorem PatternEngine.Follows.found_iff_accepts {engine : PatternEngine} {meaning : PatternMeaning}
    (h : engine.Follows meaning) {p : String} (hp : meaning.Groups engine p)
    {test : String → Bool} (htest : engine.compile ("^(?:" ++ p ++ ")$") = some test)
    (s : String) : test s = true ↔ meaning.Accepts p s := by
  rw [h.found _ test s htest]
  simp only [(h.start p hp).2, (h.finish p hp).2]
  constructor
  · rintro ⟨i, j, rfl, rfl, hspans⟩
    exact hspans
  · intro hspans
    exact ⟨0, s.length, rfl, rfl, hspans⟩

end Worksheet
