import Worksheet.Pattern.CharSet
import Worksheet.Pattern.Property.CategoryTable

/- Worksheet Categories — the general categories of characters.

   Every assigned character has one category. The categories are grouped by their
   first letter. -/
namespace Worksheet.Property

/-- The general categories of assigned characters. -/
inductive Category where
  | uppercaseLetter | lowercaseLetter | titlecaseLetter | modifierLetter | otherLetter
  | nonspacingMark | spacingMark | enclosingMark
  | decimalNumber | letterNumber | otherNumber
  | connectorPunctuation | dashPunctuation | openPunctuation | closePunctuation
  | initialPunctuation | finalPunctuation | otherPunctuation
  | mathSymbol | currencySymbol | modifierSymbol | otherSymbol
  | spaceSeparator | lineSeparator | paragraphSeparator
  | control | format | privateUse
  deriving DecidableEq, Repr

namespace Category

/-- The table of a category. -/
def table : Category → List String
  | uppercaseLetter => CategoryTable.uppercaseLetter
  | lowercaseLetter => CategoryTable.lowercaseLetter
  | titlecaseLetter => CategoryTable.titlecaseLetter
  | modifierLetter => CategoryTable.modifierLetter
  | otherLetter => CategoryTable.otherLetter
  | nonspacingMark => CategoryTable.nonspacingMark
  | spacingMark => CategoryTable.spacingMark
  | enclosingMark => CategoryTable.enclosingMark
  | decimalNumber => CategoryTable.decimalNumber
  | letterNumber => CategoryTable.letterNumber
  | otherNumber => CategoryTable.otherNumber
  | connectorPunctuation => CategoryTable.connectorPunctuation
  | dashPunctuation => CategoryTable.dashPunctuation
  | openPunctuation => CategoryTable.openPunctuation
  | closePunctuation => CategoryTable.closePunctuation
  | initialPunctuation => CategoryTable.initialPunctuation
  | finalPunctuation => CategoryTable.finalPunctuation
  | otherPunctuation => CategoryTable.otherPunctuation
  | mathSymbol => CategoryTable.mathSymbol
  | currencySymbol => CategoryTable.currencySymbol
  | modifierSymbol => CategoryTable.modifierSymbol
  | otherSymbol => CategoryTable.otherSymbol
  | spaceSeparator => CategoryTable.spaceSeparator
  | lineSeparator => CategoryTable.lineSeparator
  | paragraphSeparator => CategoryTable.paragraphSeparator
  | control => CategoryTable.control
  | format => CategoryTable.format
  | privateUse => CategoryTable.privateUse

def casedLetters : List Category := [uppercaseLetter, lowercaseLetter, titlecaseLetter]

def letters : List Category := casedLetters ++ [modifierLetter, otherLetter]

def marks : List Category := [nonspacingMark, spacingMark, enclosingMark]

def numbers : List Category := [decimalNumber, letterNumber, otherNumber]

def punctuation : List Category :=
  [connectorPunctuation, dashPunctuation, openPunctuation, closePunctuation,
    initialPunctuation, finalPunctuation, otherPunctuation]

def symbols : List Category := [mathSymbol, currencySymbol, modifierSymbol, otherSymbol]

def separators : List Category := [spaceSeparator, lineSeparator, paragraphSeparator]

/-- Every category of characters that are controls or have no fixed meaning. -/
def others : List Category := [control, format, privateUse]

/-- The characters of some categories. -/
def anyOf (cs : List Category) : CharSet := .ofText (cs.flatMap table)

end Category

/-- Every character that has a category. -/
def assigned : CharSet :=
  Category.anyOf (Category.letters ++ Category.marks ++ Category.numbers ++
    Category.punctuation ++ Category.symbols ++ Category.separators ++ Category.others)

def unassigned : CharSet := .compl assigned

/-- The categories and groups of categories by their names, without what does not
matter in a name. -/
def categoryNames : List (List String × List Category) :=
  [(["l", "letter"], Category.letters),
   (["lc", "casedletter"], Category.casedLetters),
   (["lu", "uppercaseletter"], [.uppercaseLetter]),
   (["ll", "lowercaseletter"], [.lowercaseLetter]),
   (["lt", "titlecaseletter"], [.titlecaseLetter]),
   (["lm", "modifierletter"], [.modifierLetter]),
   (["lo", "otherletter"], [.otherLetter]),
   (["m", "mark", "combiningmark"], Category.marks),
   (["mn", "nonspacingmark"], [.nonspacingMark]),
   (["mc", "spacingmark"], [.spacingMark]),
   (["me", "enclosingmark"], [.enclosingMark]),
   (["n", "number"], Category.numbers),
   (["nd", "decimalnumber", "digit"], [.decimalNumber]),
   (["nl", "letternumber"], [.letterNumber]),
   (["no", "othernumber"], [.otherNumber]),
   (["p", "punctuation", "punct"], Category.punctuation),
   (["pc", "connectorpunctuation"], [.connectorPunctuation]),
   (["pd", "dashpunctuation"], [.dashPunctuation]),
   (["ps", "openpunctuation"], [.openPunctuation]),
   (["pe", "closepunctuation"], [.closePunctuation]),
   (["pi", "initialpunctuation"], [.initialPunctuation]),
   (["pf", "finalpunctuation"], [.finalPunctuation]),
   (["po", "otherpunctuation"], [.otherPunctuation]),
   (["s", "symbol"], Category.symbols),
   (["sm", "mathsymbol"], [.mathSymbol]),
   (["sc", "currencysymbol"], [.currencySymbol]),
   (["sk", "modifiersymbol"], [.modifierSymbol]),
   (["so", "othersymbol"], [.otherSymbol]),
   (["z", "separator"], Category.separators),
   (["zs", "spaceseparator"], [.spaceSeparator]),
   (["zl", "lineseparator"], [.lineSeparator]),
   (["zp", "paragraphseparator"], [.paragraphSeparator]),
   (["cc", "control", "cntrl"], [.control]),
   (["cf", "format"], [.format]),
   (["co", "privateuse"], [.privateUse])]

/-- The set of a category. Code points that are not assigned have one too. -/
def category? (name : String) : Option CharSet :=
  match categoryNames.find? (·.1.contains name) with
  | some (_, cs) => some (Category.anyOf cs)
  | none =>
    if name = "any" then some .any
    else if name = "ascii" then some (.ofRange 0 127)
    else if name = "assigned" then some assigned
    else if ["cn", "unassigned"].contains name then some unassigned
    else if ["c", "other"].contains name then
      some (.union unassigned (Category.anyOf Category.others))
    else none

end Worksheet.Property
