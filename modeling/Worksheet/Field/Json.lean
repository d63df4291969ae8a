import Worksheet.Field.Basic
import Worksheet.Json.Reader
import Worksheet.Json.Writer

/- Worksheet Fields as JSON.

   A field is an object that names its `kind` and has the properties of that kind
   beside those of every field. Writing leaves nothing out. Reading takes members
   in any order, fills in what is missing where there is a default, passes over
   members that are not known, and refuses a property that is given twice. -/
namespace Worksheet

namespace Geometry

def toJson (g : Geometry) : Json :=
  .object [("x", .decimal g.x), ("y", .decimal g.y), ("width", .decimal g.width),
    ("height", .decimal g.height)]

end Geometry

namespace Content

/-- The properties of a content. -/
def toMembers : Content → List (String × Json)
  | label s => [("text", .text s)]
  | text default pattern maxLength =>
    [("default", .ofText? default), ("pattern", .ofText? pattern),
      ("max_length", .ofNat? maxLength)]
  | multilineText default maxLength =>
    [("default", .ofText? default), ("max_length", .ofNat? maxLength)]
  | number default min max =>
    [("default", .ofNumber? default), ("min", .ofNumber? min), ("max", .ofNumber? max)]
  | formula expression => [("expression", .text expression)]
  | file accept => [("accept", .ofText? accept)]
  | link url => [("url", .text url)]

end Content

namespace Field

/-- The members of a field: the properties of its kind stand between those that
every field has. -/
def membersOf (info : FieldInfo) (kind : String) (properties : List (String × Json)) : Json :=
  .object ([("id", .text info.id), ("reference", .ofText? info.reference), ("kind", .text kind)] ++
    properties ++ [("geometry", info.geometry.toJson), ("visible", .bool info.visible)])

mutual
/-- The tree of a field. -/
def toJson : Field → Json
  | item info content => membersOf info content.kind content.toMembers
  | frame info children => membersOf info "frame" [("children", .array (toJsonAll children))]

def toJsonAll : List Field → List Json
  | [] => []
  | f :: fs => f.toJson :: toJsonAll fs
end

/-! ## Reading -/

/-- The members of an object. -/
abbrev Members := List (String × Json)

/-- The member of a name, which may be missing but not repeated. -/
def member? (ms : Members) (names : List String) : Option (Option Json) :=
  match ms.filter (names.contains ·.1) with
  | [] => some none
  | [(_, j)] => some (some j)
  | _ => none

/-- A property with a default for when it is missing. -/
def property {α : Type} (ms : Members) (name : String) (default : α) (read : Json → Option α) :
    Option α := do
  match ← member? ms [name] with
  | none => some default
  | some j => read j

/-- A property that is missing or `null` when there is none. -/
def optional {α : Type} (ms : Members) (name : String) (read : Json → Option α) :
    Option (Option α) :=
  property ms name none fun
    | .null => some none
    | j => (read j).map some

/-- A number at a place of a list, or zero where the list is shorter. -/
def coordinate (items : List Json) (i : Nat) : Option Float :=
  match items[i]? with
  | none => some 0
  | some j => j.number?

/-- A geometry: an object with the coordinates that are not zero, or a list of
them in order. -/
def geometryOf : Json → Option Geometry
  | .object ms => do
    return ⟨← property ms "x" 0 Json.number?, ← property ms "y" 0 Json.number?,
      ← property ms "width" 0 Json.number?, ← property ms "height" 0 Json.number?⟩
  | .array items => do
    guard (items.length ≤ 4)
    return ⟨← coordinate items 0, ← coordinate items 1, ← coordinate items 2,
      ← coordinate items 3⟩
  | _ => none

/-- The kinds in the order of their numbers. -/
def kinds : List String :=
  ["label", "text", "multiline_text", "number", "formula", "frame", "file", "link"]

/-- The kind that a tree names, or gives the number of. -/
def kindOf : Json → Option String
  | .text s => if kinds.contains s then some s else none
  | .integer n => if 0 ≤ n then kinds[n.toNat]? else none
  | _ => none

/-- The names of the properties that every field has, the kind apart. -/
def commonNames : List String := ["id", "reference", "ref", "geometry", "visible"]

def infoOfMembers (ms : Members) : Option FieldInfo := do
  let id ← (← member? ms ["id"]).bind Json.text?
  let reference ← match ← member? ms ["reference", "ref"] with
    | none | some .null => some none
    | some j => j.text?.map some
  let geometry ← property ms "geometry" .zero geometryOf
  let visible ← property ms "visible" true Json.bool?
  return ⟨id, reference, geometry, visible⟩

/-- A count that fits in 64 bits. -/
def countOf (j : Json) : Option Nat := do
  let n ← j.nat?
  if n < UInt64.size then some n else none

/-- The content of a kind other than a frame. -/
def contentOf (ms : Members) : String → Option Content
  | "label" => do
    return .label (← property ms "text" "" Json.text?)
  | "text" => do
    return .text (← optional ms "default" Json.text?) (← optional ms "pattern" Json.text?)
      (← optional ms "max_length" countOf)
  | "multiline_text" => do
    return .multilineText (← optional ms "default" Json.text?)
      (← optional ms "max_length" countOf)
  | "number" => do
    return .number (← optional ms "default" Json.number?) (← optional ms "min" Json.number?)
      (← optional ms "max" Json.number?)
  | "formula" => do
    return .formula (← (← member? ms ["expression"]).bind Json.text?)
  | "file" => do
    return .file (← optional ms "accept" Json.text?)
  | "link" => do
    return .link (← property ms "url" "" Json.text?)
  | _ => none

/-- The members that are read together with the kind. All of them are looked at,
so all have to be readable. -/
def kindMembers (ms : Members) : Members := ms.filter fun m => !commonNames.contains m.1

mutual
/-- The field that a tree spells out. -/
def ofJson? : Json → Option Field
  | .object ms => do
    guard (Json.membersReadable (kindMembers ms))
    let info ← infoOfMembers ms
    let kind ← (← member? ms ["kind"]).bind kindOf
    if kind = "frame" then
      let _ ← member? ms ["children"]
      return .frame info (← childrenOf? ms)
    else return .item info (← contentOf ms kind)
  | _ => none

/-- The fields inside an object; without the member there are none. -/
def childrenOf? : List (String × Json) → Option (List Field)
  | [] => some []
  | (name, j) :: ms => if name = "children" then listOfJson? j else childrenOf? ms

/-- The fields that a tree spells out as a list. -/
def listOfJson? : Json → Option (List Field)
  | .array items => ofJsonAll? items
  | _ => none

/-- The fields that trees spell out. -/
def ofJsonAll? : List Json → Option (List Field)
  | [] => some []
  | j :: js => do
    let f ← ofJson? j
    let fs ← ofJsonAll? js
    return f :: fs
end

end Field

end Worksheet
