import Worksheet.Value

/- Worksheet Fields — the templates that sheets are made from.

   A template is a list of fields. A frame groups fields and may hold further
   frames; every other field has a content of its own. A field is part of the
   calculation if it has a reference name. -/
namespace Worksheet

/-- Where a field is drawn. Nothing here depends on it. -/
structure Geometry where
  x : Float
  y : Float
  width : Float
  height : Float
  deriving Repr, Inhabited

def Geometry.zero : Geometry := ⟨0, 0, 0, 0⟩

/-- What every field has. -/
structure FieldInfo where
  id : String
  /-- The name by which formulas read the field. -/
  reference : Option String
  geometry : Geometry
  visible : Bool
  deriving Repr, Inhabited

/-- What a field that is not a frame holds. -/
inductive Content where
  | label (text : String)
  | text (default pattern : Option String) (maxLength : Option Nat)
  | multilineText (default : Option String) (maxLength : Option Nat)
  | number (default min max : Option Float)
  | formula (expression : String)
  | file (accept : Option String)
  | link (url : String)
  deriving Repr, Inhabited

/-- A field, possibly with fields inside. -/
inductive Field where
  | item (info : FieldInfo) (content : Content)
  | frame (info : FieldInfo) (children : List Field)
  deriving Repr, Inhabited

def Content.kind : Content → String
  | label _ => "label"
  | text _ _ _ => "text"
  | multilineText _ _ => "multiline_text"
  | number _ _ _ => "number"
  | formula _ => "formula"
  | file _ => "file"
  | link _ => "link"

/-- The value that a content starts with; a formula has none. -/
def Content.default? : Content → Option Value
  | label s => some (.text s)
  | text default _ _ => some ((default.map .text).getD .null)
  | multilineText default _ => some ((default.map .text).getD .null)
  | number default _ _ => some ((default.map .number).getD .null)
  | formula _ => none
  | file _ => some .null
  | link url => some (.text url)

namespace Field

def info : Field → FieldInfo
  | item info _ => info
  | frame info _ => info

/-- The field with other information. -/
def withInfo (f : Field) (info : FieldInfo) : Field :=
  match f with
  | item _ content => .item info content
  | frame _ children => .frame info children

def id (f : Field) : String := f.info.id

def reference (f : Field) : Option String := f.info.reference

def kind : Field → String
  | item _ content => content.kind
  | frame _ _ => "frame"

/-- The text of a formula. -/
def expression? : Field → Option String
  | item _ (.formula expression) => some expression
  | _ => none

def isFormula (f : Field) : Bool := f.expression?.isSome

def children : Field → List Field
  | item _ _ => []
  | frame _ children => children

/-- The value that a field starts with; a formula has none. -/
def default? : Field → Option Value
  | item _ content => content.default?
  | frame _ _ => some .null

/-! ## Making fields -/

/-- A visible field without a reference name. -/
def infoOf (id : String) : FieldInfo := ⟨id, none, .zero, true⟩

/-- The information of a visible field whose reference name is its identifier. -/
def referredOf (name : String) : FieldInfo := ⟨name, some name, .zero, true⟩

def ofFormula (name expression : String) : Field := .item (referredOf name) (.formula expression)

def ofNumber (name : String) (default : Option Float) : Field :=
  .item (referredOf name) (.number default none none)

def ofText (name : String) (default : Option String) : Field :=
  .item (referredOf name) (.text default none none)

def ofLink (id url : String) : Field := .item (infoOf id) (.link url)

def ofFrame (id : String) (children : List Field) : Field := .frame (infoOf id) children

def withReference (f : Field) (name : String) : Field :=
  f.withInfo { f.info with reference := some name }

def withVisible (f : Field) (visible : Bool) : Field :=
  f.withInfo { f.info with visible := visible }

def withGeometry (f : Field) (geometry : Geometry) : Field :=
  f.withInfo { f.info with geometry := geometry }

end Field

end Worksheet
