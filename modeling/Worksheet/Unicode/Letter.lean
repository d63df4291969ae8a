import Worksheet.Unicode.CodeSet
import Worksheet.Unicode.LetterTable

/- Worksheet Letters — which characters are letters or numbers, and which take
   part in the case of a word. -/
namespace Worksheet.Unicode

/-- Letters, letter numbers and the marks that stand for vowels. -/
def alphabetic : CodeSet := .ofText LetterTable.alphabetic

/-- Digits and all other numbers. -/
def numeric : CodeSet := .ofText LetterTable.numeric

/-- Characters that have a case. -/
def cased : CodeSet := .ofText LetterTable.cased

/-- Characters that are passed over when the case of a neighbour is looked up. -/
def caseIgnorable : CodeSet := .ofText LetterTable.caseIgnorable

def isAlphabetic (c : Char) : Bool := alphabetic.contains c.toNat

def isNumeric (c : Char) : Bool := numeric.contains c.toNat

def isCased (c : Char) : Bool := cased.contains c.toNat

def isCaseIgnorable (c : Char) : Bool := caseIgnorable.contains c.toNat

end Worksheet.Unicode
