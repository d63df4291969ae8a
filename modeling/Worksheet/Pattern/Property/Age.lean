import Worksheet.Pattern.CharSet
import Worksheet.Pattern.Property.AgeTable

/- Worksheet Ages — the characters that were there by a version of the standard. -/
namespace Worksheet.Property

/-- The characters that a version has, whichever version added them. -/
def age? (name : String) : Option CharSet :=
  (ages.findIdx? (·.1.contains name)).map fun i => .ofText ((ages.take (i + 1)).flatMap (·.2))

end Worksheet.Property
