import Worksheet.Context.Json
import Worksheet.Field.Json

/- Worksheet Files — sheets as they are kept.

   A file holds a template and the values that its cells start with. It holds no
   errors: those are only ever computed. -/
namespace Worksheet

/-- A template with values. -/
structure SheetFile where
  fields : List Field
  values : List (String × Value)

namespace SheetFile

/-- The values as a context. -/
def seed (f : SheetFile) : Context := .ofValues f.values

/-- The values that a tree spells out, by name. -/
def valuesOfJson? : Json → Option (List (String × Value))
  | .object ms => ms.mapM fun m => (Value.ofJson? m.2).map fun v => (m.1, v)
  | _ => none

/-- The file that a tree spells out: an object with the fields and perhaps values,
or a list of the two. Other members are passed over. -/
def ofJson? : Json → Option SheetFile
  | .object ms => do
    return ⟨← (← Field.member? ms ["fields"]).bind Field.listOfJson?,
      ← Field.property ms "values" [] valuesOfJson?⟩
  | .array [fields] => do
    return ⟨← Field.listOfJson? fields, []⟩
  | .array [fields, values] => do
    return ⟨← Field.listOfJson? fields, ← valuesOfJson? values⟩
  | _ => none

/-- The file that a text spells out for a codec. -/
def ofText? (codec : JsonCodec) (text : String) : Option SheetFile := (codec.read text).bind ofJson?

end SheetFile

end Worksheet
