import Worksheet.Pattern.Match

/- Worksheet Pattern Engines — what is asked of patterns.

   An engine makes a test of the text of a pattern: whether the pattern is found
   somewhere in a text. Fields are checked through an engine, and know nothing of how
   it works. `PatternEngine.standard` is the engine that runs. -/
namespace Worksheet

/-- What makes tests of patterns. -/
structure PatternEngine where
  /-- The test that the text of a pattern spells out, if it spells out one. -/
  compile : String → Option (String → Bool)

/-- The engine that fields are checked with. A pattern that is too large is none. -/
def PatternEngine.standard : PatternEngine where
  compile text := ((Pattern.parse? text).filter Pattern.fits).map Pattern.isMatch

end Worksheet
