import Std.Data.ExtTreeSet
import Worksheet.Pattern.Language
import Worksheet.Pattern.Size

/- Worksheet Pattern Matching — where a pattern can end.

   From a set of places in a text a pattern leads to the set of places where a
   match from one of them can end. All alternatives are followed at once, so
   nothing is tried twice and every repetition settles after at most as many
   rounds as there are places. -/
namespace Worksheet

/-- Places in a text, counted in characters before them. -/
abbrev Places := Std.ExtTreeSet Nat

namespace Pattern

/-- The places reached from `seen` by going on from `layer`, which is part of it,
at most so many times. -/
def grow (next : Places → Places) : Nat → Places → Places → Places
  | 0, seen, _ => seen
  | rounds + 1, seen, layer =>
    let met := (next layer).toList.filter (!seen.contains ·)
    if met.isEmpty then seen else grow next rounds (seen.insertMany met) (.ofList met)

/-- The places where a match of a pattern from one of some places can end. A count
beyond the number of places makes no difference: some round then goes nowhere, and
it can be left out or repeated. -/
def ends (text : Array Char) : Pattern → Places → Places
  | empty, places => places
  | one s, places =>
    .ofList (places.toList.filterMap fun i =>
      if text[i]?.any fun c => s.contains c.toNat then some (i + 1) else none)
  | look l, places => places.filter fun i => l.holds text i
  | seq a b, places => ends text b (ends text a places)
  | alt a b, places => (ends text a places).insertMany (ends text b places).toList
  | repetition inner least most, places =>
    let rounds := text.size + 1
    let first := Nat.repeat (ends text inner) (min least rounds) places
    grow (ends text inner) (most.elim rounds fun most => min (most - least) rounds) first first

/-- Whether a pattern matches some part of a text. -/
def isMatch (p : Pattern) (text : String) : Bool :=
  let chars := text.toList.toArray
  !(p.ends chars (.ofList (List.range (chars.size + 1)))).isEmpty

end Pattern

end Worksheet
