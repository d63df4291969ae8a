import Worksheet.Pattern.CharSet
import Worksheet.Pattern.Property.ScriptTable

/- Worksheet Scripts — the characters of a script, and those written in it. -/
namespace Worksheet.Property

/-- The script of a name. -/
def findScript? (name : String) : Option Script := scripts.find? (·.names.contains name)

/-- The characters whose script has a name. -/
def script? (name : String) : Option CharSet :=
  (findScript? name).map fun s => .ofText s.members

/-- The characters that are written in a script. One that several scripts share is
written in those that it is listed with, and in no other. -/
def scriptExtension? (name : String) : Option CharSet :=
  (findScript? name).map fun s =>
    .union (.ofText s.shared) (.diff (.ofText s.members) (.ofText (scripts.flatMap (·.shared))))

end Worksheet.Property
