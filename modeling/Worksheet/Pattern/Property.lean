import Worksheet.Pattern.Property.Age
import Worksheet.Pattern.Property.Binary
import Worksheet.Pattern.Property.Break
import Worksheet.Pattern.Property.Category
import Worksheet.Pattern.Property.Script

/- Worksheet Character Properties — `\p` classes.

   A class names a category, a script or a binary property, or a property and one
   of its values. In names the case of letters does not matter, nor do spaces,
   dashes and underscores, nor `is` in front. The properties go by version 16.0 of
   the standard. -/
namespace Worksheet.Property

/-- A name without what does not matter in it. The name `isc` keeps its `is`. -/
def looseName (s : String) : String :=
  let cs := s.toList
  let named := (cs.take 2).map Char.toLower == ['i', 's']
  let rest := (if named then cs.drop 2 else cs).filter fun c =>
    c.toNat < 128 && c != ' ' && c != '_' && c != '-'
  let kept := String.ofList (rest.map Char.toLower)
  if named && kept == "c" then "isc" else kept

/-- The set that a name stands for. No two kinds of property share a name. -/
def named? (name : String) : Option CharSet :=
  let name := looseName name
  ((binary? name).or (category? name)).or (script? name)

/-- The set of the characters whose property has a value. -/
def valued? (property value : String) : Option CharSet :=
  let value := looseName value
  match looseName property with
  | "generalcategory" | "gc" => category? value
  | "script" | "sc" => script? value
  | "scriptextensions" | "scx" => scriptExtension? value
  | "age" => age? value
  | "graphemeclusterbreak" | "gcb" => graphemeBreak? value
  | "wordbreak" | "wb" => wordBreak? value
  | "sentencebreak" | "sb" => sentenceBreak? value
  | _ => none

/-- A property as it stands between braces, and whether it has to fail. -/
def read? (text : String) : Option (CharSet × Bool) :=
  match text.splitOn "!=" with
  | name :: value :: rest =>
    (valued? name (String.intercalate "!=" (value :: rest))).map (·, true)
  | _ =>
    let cs := text.toList
    let separator := if cs.contains ':' then ':' else '='
    match cs.dropWhile (· != separator) with
    | [] => (named? text).map (·, false)
    | _ :: value =>
      let name := cs.takeWhile (· != separator)
      (valued? (String.ofList name) (String.ofList value)).map (·, false)

end Worksheet.Property
