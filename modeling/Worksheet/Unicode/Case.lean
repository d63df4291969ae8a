import Worksheet.Unicode.CaseTable
import Worksheet.Unicode.Letter

/- Worksheet Letter Case — upper case and lower case.

   Case maps a character to one or more characters. ASCII letters are mapped
   directly; the tables hold the rest. Only the capital sigma depends on its
   neighbours: at the end of a word it has a form of its own. -/
namespace Worksheet.Unicode

/-- The characters that a table gives for one character. -/
def mapCase (runs : List CaseRun) (expansions : List (Nat × List Nat)) (c : Char) : List Char :=
  match expansions.lookup c.toNat with
  | some ns => ns.map Char.ofNat
  | none => [Char.ofNat ((runs.findSome? (·.image? c.toNat)).getD c.toNat)]

/-- The upper case of one character. -/
def upperChar (c : Char) : List Char :=
  if c.toNat < 128 then [c.toUpper] else mapCase upperRuns upperExpansions c

/-- The lower case of one character, wherever it stands. -/
def lowerChar (c : Char) : List Char :=
  if c.toNat < 128 then [c.toLower] else mapCase lowerRuns lowerExpansions c

/-- The upper case of a text. -/
def upper (s : String) : String := String.ofList (s.toList.flatMap upperChar)

/-- Whether the first character that is not passed over has a case. -/
def startsCased (cs : List Char) : Bool :=
  match cs.dropWhile isCaseIgnorable with
  | [] => false
  | c :: _ => isCased c

/-- The lower case of characters that stand after `before`, which is reversed.
A capital sigma is final when a cased letter stands before it and none after. -/
def lowerFrom : List Char → List Char → List Char
  | _, [] => []
  | before, c :: cs =>
    (if c == 'Σ' then (if startsCased before && !startsCased cs then ['ς'] else ['σ'])
     else lowerChar c) ++ lowerFrom (c :: before) cs

/-- The lower case of a text. -/
def lower (s : String) : String := String.ofList (lowerFrom [] s.toList)

end Worksheet.Unicode
