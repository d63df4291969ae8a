import Worksheet.Pattern.Basic

/- Worksheet Pattern Languages — which parts of a text a pattern matches.

   `Pattern.Matches` is defined by the shape of a pattern and says nothing about
   how matches are found. It speaks of one text, so that anchors can look at what
   stands beside a match. -/
namespace Worksheet

/-- Whether a condition holds at a place of a text. -/
def Look.holds (text : Array Char) (i : Nat) : Look → Bool
  | textStart => i == 0
  | textEnd => i == text.size
  | lineStart => i == 0 || text[i - 1]? == some '\n'
  | lineEnd => i == text.size || text[i]? == some '\n'
  | anyLineStart =>
    i == 0 || text[i - 1]? == some '\n' ||
      (text[i - 1]? == some '\r' && text[i]? != some '\n')
  | anyLineEnd =>
    i == text.size || text[i]? == some '\r' ||
      (text[i]? == some '\n' && (i == 0 || text[i - 1]? != some '\r'))
  | word holds words =>
    let isWord (c : Option Char) : Bool := c.any fun c => words.contains c.toNat
    holds (0 < i && isWord text[i - 1]?) (isWord text[i]?)

namespace Pattern

/-- Whether so many steps of a relation lead from `i` to `j`. -/
def Times (step : Nat → Nat → Prop) : Nat → Nat → Nat → Prop
  | 0, i, j => i = j
  | n + 1, i, k => ∃ j, step i j ∧ Times step n j k

/-- Whether a pattern matches the part of a text between two places. -/
def Matches (text : Array Char) : Pattern → Nat → Nat → Prop
  | empty, i, j => i = j
  | one s, i, j => j = i + 1 ∧ ∃ c, text[i]? = some c ∧ s.contains c.toNat
  | look l, i, j => i = j ∧ l.holds text i
  | seq a b, i, k => ∃ j, Matches text a i j ∧ Matches text b j k
  | alt a b, i, j => Matches text a i j ∨ Matches text b i j
  | repetition inner least most, i, j =>
    ∃ n, least ≤ n ∧ (∀ m, most = some m → n ≤ m) ∧ Times (Matches text inner) n i j

end Pattern

end Worksheet
