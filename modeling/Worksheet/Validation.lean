import Worksheet.Context
import Worksheet.Field.Listing
import Worksheet.Pattern.Engine

/- Worksheet Validation — whether values keep to what their fields demand.

   Numbers may have bounds, and texts a greatest length and a pattern. Nothing is
   changed: what is found is reported as a list of issues. A field without a value
   demands nothing, and formulas are not checked, since nobody enters them. -/
namespace Worksheet

/-- What is wrong with a value. -/
inductive Violation where
  | wrongType (expected actual : String)
  | belowMinimum (min actual : Float)
  | aboveMaximum (max actual : Float)
  | tooLong (maxLength actual : Nat)
  | patternMismatch (pattern : String)
  /-- The pattern of the field with this identifier is none. -/
  | invalidPattern (id pattern : String)
  deriving Repr

/-- A violation and the field that it belongs to. -/
structure Issue where
  id : String
  reference : Option String
  violation : Violation
  deriving Repr

/-- What is said about a pattern that is none, up to the reason. -/
def invalidPatternMessage (id pattern : String) : String :=
  "Invalid pattern '" ++ pattern ++ "' on field " ++ id ++ ": "

def Violation.message : Violation → String
  | wrongType expected actual => "expected " ++ expected ++ ", got " ++ actual
  | belowMinimum min actual =>
    Layout.display.text actual ++ " is below minimum " ++ Layout.display.text min
  | aboveMaximum max actual =>
    Layout.display.text actual ++ " is above maximum " ++ Layout.display.text max
  | tooLong maxLength actual =>
    "length " ++ toString actual ++ " exceeds " ++ toString maxLength
  | patternMismatch pattern => "value does not match pattern '" ++ pattern ++ "'"
  | invalidPattern id pattern => invalidPatternMessage id pattern

/-- The text of an issue. A field is called by its reference name if it has one. -/
def Issue.display (i : Issue) : String := i.reference.getD i.id ++ ": " ++ i.violation.message

/-! ## Checks -/

/-- The bounds that a number breaks. -/
def checkBounds (min max : Option Float) (x : Float) : List Violation :=
  (min.toList.filter (x < ·)).map (.belowMinimum · x) ++
    (max.toList.filter (· < x)).map (.aboveMaximum · x)

/-- The length that a text exceeds, counted in characters. -/
def checkLength (maxLength : Option Nat) (s : String) : List Violation :=
  (maxLength.toList.filter (· < s.length)).map (.tooLong · s.length)

/-- The text of a pattern in a group between anchors, which holds it to the two ends of
what it is found in. -/
def wholePattern (pattern : String) : String := "^(?:" ++ pattern ++ ")$"

/-- What a text does wrong to the pattern of a field. -/
def checkPattern (engine : PatternEngine) (id : String) (pattern : Option String) (s : String) :
    List Violation :=
  match pattern with
  | none => []
  | some pattern =>
    match engine.compile (wholePattern pattern) with
    | none => [.invalidPattern id pattern]
    | some found => if found s then [] else [.patternMismatch pattern]

/-- What a value that is not null does wrong to a content. -/
def Content.violations (engine : PatternEngine) (id : String) (v : Value) :
    Content → List Violation
  | number _ min max =>
    match v with
    | .number x => checkBounds min max x
    | _ => [.wrongType "number" v.typeName]
  | text _ pattern maxLength =>
    match v with
    | .text s => checkLength maxLength s ++ checkPattern engine id pattern s
    | _ => [.wrongType "string" v.typeName]
  | multilineText _ maxLength =>
    match v with
    | .text s => checkLength maxLength s
    | _ => [.wrongType "string" v.typeName]
  | label _ | formula _ | file _ | link _ => []

namespace Field

/-- The issues of a value in a field, with an engine for patterns. -/
def issuesWith (engine : PatternEngine) (f : Field) (v : Value) : List Issue :=
  match f, v with
  | _, .null => []
  | frame _ _, _ => []
  | item info content, v =>
    (content.violations engine info.id v).map fun w => ⟨info.id, info.reference, w⟩

/-- The issues of a value in a field. -/
def issues (f : Field) (v : Value) : List Issue := f.issuesWith .standard v

/-- The issues of the values that a context holds for the fields of a template,
at any depth, with an engine for patterns. -/
def contextIssuesWith (engine : PatternEngine) (fs : List Field) (c : Context) : List Issue :=
  ((flattenAll fs).filter (!·.isFormula)).flatMap fun f =>
    match f.reference.bind c.value? with
    | some v => f.issuesWith engine v
    | none => []

/-- The issues of the values that a context holds for the fields of a template. -/
def contextIssues (fs : List Field) (c : Context) : List Issue :=
  contextIssuesWith .standard fs c

end Field

end Worksheet
