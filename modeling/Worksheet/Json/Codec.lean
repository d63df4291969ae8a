import Worksheet.Json.Reader
import Worksheet.Json.Writer

/- Worksheet JSON Codecs — what is asked of interchange text.

   A codec reads trees from texts and writes them, in either of two styles. Files,
   contexts and templates are read and written through a codec, and know nothing of
   how it works. `JsonCodec.standard` is the codec that runs. -/
namespace Worksheet

/-- Without any space, or over several lines. -/
inductive JsonStyle where
  | compact
  | pretty
  deriving DecidableEq, Repr

/-- A reader and a writer of interchange text. -/
structure JsonCodec where
  /-- The tree that a text spells out. -/
  read : String → Option Json
  write : JsonStyle → Json → String

namespace JsonCodec

/-- The codec that reads numerals in a given way. -/
def ofReading (reading : NumeralReading) : JsonCodec where
  read := Json.readWith reading
  write
    | .compact => Json.compact
    | .pretty => Json.pretty

/-- The codec that files are read with: its numbers may lie beside the nearest ones. -/
def standard : JsonCodec := ofReading .scaled

/-- The codec that reads every number as the nearest one. -/
def exact : JsonCodec := ofReading .nearest

end JsonCodec

/-- The tree that a text spells out, with the nearest numbers. -/
def Json.parse? (text : String) : Option Json := JsonCodec.exact.read text

end Worksheet
