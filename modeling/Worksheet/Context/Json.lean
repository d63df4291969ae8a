import Worksheet.Context
import Worksheet.Json.Codec

/- Worksheet Contexts as JSON.

   A value is written as itself. An error is an object with the single member
   `error`, which holds its tag; no value is written as an object, so the two are
   never taken for each other. -/
namespace Worksheet

namespace Value

mutual
/-- The tree of a value. -/
def toJson : Value → Json
  | null => .null
  | bool b => .bool b
  | number x => .decimal x
  | text s => .text s
  | list items => .array (toJsonAll items)

def toJsonAll : List Value → List Json
  | [] => []
  | v :: vs => v.toJson :: toJsonAll vs
end

mutual
/-- The value that a tree spells out. Objects are not values. -/
def ofJson? : Json → Option Value
  | .null => some .null
  | .bool b => some (.bool b)
  | .integer n => some (.number (Json.floatOfInt n))
  | .decimal x => some (.number x)
  | .text s => some (.text s)
  | .array items => (ofJsonAll? items).map .list
  | .object _ => none
  | .unreadable => none

def ofJsonAll? : List Json → Option (List Value)
  | [] => some []
  | j :: js => do
    let v ← ofJson? j
    let vs ← ofJsonAll? js
    return v :: vs
end

end Value

namespace CellError

def toJson (e : CellError) : Json := .object [("error", .text e.tag)]

/-- The error whose tag a tree is, or is the name of its only member. -/
def ofTagJson? : Json → Option CellError
  | .text s => ofTag? s
  | .object [(s, .null)] => ofTag? s
  | _ => none

end CellError

namespace Entry

/-- The tree of an entry. -/
def toJson : Entry → Json
  | .ok v => v.toJson
  | .error e => e.toJson

/-- The entry that a tree spells out. An object is an error: it has one member
`error`, and may have others, which are passed over. -/
def ofJson? : Json → Option Entry
  | .object members =>
    if Json.membersReadable members then
      match members.filter (·.1 == "error") with
      | [(_, tag)] => (CellError.ofTagJson? tag).map .error
      | _ => none
    else none
  | j => (Value.ofJson? j).map .ok

end Entry

namespace Context

/-- The tree of a context. -/
def toJson (c : Context) : Json := .object (c.toList.map fun (name, e) => (name, Entry.toJson e))

/-- The context that a tree spells out; of members with one name the last counts. -/
def ofJson? : Json → Option Context
  | .object members =>
    (members.mapM fun m => (Entry.ofJson? m.2).map fun e => (m.1, e)).map ofList
  | _ => none

/-- The context that a text spells out for a codec. -/
def ofText? (codec : JsonCodec) (text : String) : Option Context := (codec.read text).bind ofJson?

/-- The context that a text spells out. -/
def parse? (text : String) : Option Context := ofText? .standard text

end Context

end Worksheet
