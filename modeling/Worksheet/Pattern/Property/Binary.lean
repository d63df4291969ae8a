import Worksheet.Pattern.Property.BinaryTable
import Worksheet.Pattern.Property.Category

/- Worksheet Binary Properties — properties that hold of a character or do not.

   Some are given by a table. The others are put together from categories and
   tables, as the standard derives them. -/
namespace Worksheet.Property

/-- The set of the characters that a table of properties lists. -/
def listed (lines : List String) : CharSet := .ofText lines

/-! ## Letters and their case -/

def lowercase : CharSet :=
  .union (Category.anyOf [.lowercaseLetter]) (listed BinaryTable.otherLowercase)

def uppercase : CharSet :=
  .union (Category.anyOf [.uppercaseLetter]) (listed BinaryTable.otherUppercase)

/-- Letters, letter numbers and the marks that stand for vowels. -/
def alphabetic : CharSet :=
  .union (Category.anyOf (.letterNumber :: Category.letters))
    (.union (listed BinaryTable.otherLowercase)
      (.union (listed BinaryTable.otherUppercase) (listed BinaryTable.otherAlphabetic)))

def cased : CharSet :=
  .union (Category.anyOf [.titlecaseLetter]) (.union lowercase uppercase)

/-- Marks, modifiers and what may stand in the middle of a word. -/
def caseIgnorable : CharSet :=
  .union
    (Category.anyOf [.nonspacingMark, .enclosingMark, .format, .modifierLetter, .modifierSymbol])
    (.ofText ["27 2E 3A B7 387 55F 5F4 2018-2019 2024 2027 FE13 FE52 FE55 FF07 FF0E FF1A"])

def changesWhenLowercased : CharSet := listed BinaryTable.changesWhenLowercased

def changesWhenUppercased : CharSet := listed BinaryTable.changesWhenUppercased

/-- Title case leaves letters alone that upper case changes, and the other way round. -/
def changesWhenTitlecased : CharSet :=
  .union
    (.diff changesWhenUppercased
      (.ofText
        ["1C5 1C8 1CB 1F2 10D0-10FA 10FD-10FF 1F88-1F8F 1F98-1F9F 1FA8-1FAF 1FBC 1FCC 1FFC"]))
    (.ofText ["1C4 1C7 1CA 1F1"])

def changesWhenCasemapped : CharSet :=
  .union changesWhenLowercased (.union changesWhenUppercased changesWhenTitlecased)

/-- Folding changes what lower case changes, and lower case letters that are variants
of others. In one script it goes to the capitals. -/
def changesWhenCasefolded : CharSet :=
  .union (.diff changesWhenLowercased (.ofRange 0x13A0 0x13F5))
    (.ofText
      ["B5 DF 149 17F 345 3C2 3D0-3D1 3D5-3D6 3F0-3F1 3F5 587 13F8-13FD 1C80-1C88 1E9A-1E9B",
       "1F80-1F87 1F90-1F97 1FA0-1FA7 1FB2-1FB4 1FB7 1FC2-1FC4 1FC7 1FF2-1FF4 1FF7 AB70-ABBF",
       "FB00-FB06 FB13-FB17"])

/-! ## Words and names -/

/-- Decimal digits of every script. -/
def decimalDigits : CharSet := Category.anyOf [.decimalNumber]

/-- Characters of words: alphabetic ones, marks, digits, connectors and joiners. -/
def wordCharacters : CharSet :=
  .union
    (Category.anyOf (.decimalNumber :: .connectorPunctuation :: .letterNumber ::
      (Category.letters ++ Category.marks)))
    (.ofText (BinaryTable.otherLowercase ++ BinaryTable.otherUppercase ++
      BinaryTable.otherAlphabetic ++ BinaryTable.joinControl))

/-- Characters of the syntax of patterns, which stand in no name. -/
def patternCharacters : CharSet :=
  listed (BinaryTable.patternSyntax ++ BinaryTable.patternWhiteSpace)

def idStart : CharSet :=
  .diff
    (.union (Category.anyOf (.letterNumber :: Category.letters)) (listed BinaryTable.otherIdStart))
    patternCharacters

def idContinue : CharSet :=
  .union idStart
    (.diff
      (.union
        (Category.anyOf [.nonspacingMark, .spacingMark, .decimalNumber, .connectorPunctuation])
        (listed BinaryTable.otherIdContinue))
      patternCharacters)

/-- Characters whose compatible forms are no names, wherever they stand. -/
def unstableInNames : List String :=
  ["37A 309B-309C FC5E-FC63 FDFA-FDFB FE70-FE7E/2"]

def xidStart : CharSet :=
  .diff idStart (.ofText ("E33 EB3 FF9E-FF9F" :: unstableInNames))

def xidContinue : CharSet := .diff idContinue (.ofText unstableInNames)

/-! ## Graphemes and symbols -/

def graphemeExtend : CharSet :=
  .union (Category.anyOf [.nonspacingMark, .enclosingMark]) (listed BinaryTable.otherGraphemeExtend)

def graphemeBase : CharSet :=
  .diff assigned
    (.union (Category.anyOf (.lineSeparator :: .paragraphSeparator :: Category.others))
      graphemeExtend)

def math : CharSet := .union (Category.anyOf [.mathSymbol]) (listed BinaryTable.otherMath)

/-- Characters that show nothing where they are not understood. -/
def defaultIgnorable : CharSet :=
  .diff
    (.union (Category.anyOf [.format])
      (listed (BinaryTable.otherDefaultIgnorableCodePoint ++ BinaryTable.variationSelector)))
    (.union (listed (BinaryTable.whiteSpace ++ BinaryTable.prependedConcatenationMark))
      (.ofText ["FFF9-FFFB 13430-1343F"]))

/-! ## Names -/

/-- The binary properties by their names, without what does not matter in a name. -/
def binary? : String → Option CharSet
  | "asciihexdigit" | "ahex" => some (listed BinaryTable.asciiHexDigit)
  | "alphabetic" | "alpha" => some alphabetic
  | "bidicontrol" | "bidic" => some (listed BinaryTable.bidiControl)
  | "bidimirrored" | "bidim" => some (listed BinaryTable.bidiMirrored)
  | "caseignorable" | "ci" => some caseIgnorable
  | "cased" => some cased
  | "changeswhencasefolded" | "cwcf" => some changesWhenCasefolded
  | "changeswhencasemapped" | "cwcm" => some changesWhenCasemapped
  | "changeswhenlowercased" | "cwl" => some changesWhenLowercased
  | "changeswhentitlecased" | "cwt" => some changesWhenTitlecased
  | "changeswhenuppercased" | "cwu" => some changesWhenUppercased
  | "dash" => some (listed BinaryTable.dash)
  | "defaultignorablecodepoint" | "di" => some defaultIgnorable
  | "deprecated" | "dep" => some (listed BinaryTable.deprecated)
  | "diacritic" | "dia" => some (listed BinaryTable.diacritic)
  | "emoji" => some (listed BinaryTable.emoji)
  | "emojicomponent" | "ecomp" => some (listed BinaryTable.emojiComponent)
  | "emojimodifier" | "emod" => some (listed BinaryTable.emojiModifier)
  | "emojimodifierbase" | "ebase" => some (listed BinaryTable.emojiModifierBase)
  | "emojipresentation" | "epres" => some (listed BinaryTable.emojiPresentation)
  | "extendedpictographic" | "extpict" => some (listed BinaryTable.extendedPictographic)
  | "extender" | "ext" => some (listed BinaryTable.extender)
  | "graphemebase" | "grbase" => some graphemeBase
  | "graphemeextend" | "grext" => some graphemeExtend
  | "graphemelink" | "grlink" => some (listed BinaryTable.graphemeLink)
  | "hexdigit" | "hex" => some (listed BinaryTable.hexDigit)
  | "hyphen" => some (listed BinaryTable.hyphen)
  | "idsbinaryoperator" | "idsb" => some (listed BinaryTable.idsBinaryOperator)
  | "idstrinaryoperator" | "idst" => some (listed BinaryTable.idsTrinaryOperator)
  | "idsunaryoperator" | "idsu" => some (listed BinaryTable.idsUnaryOperator)
  | "idcompatmathcontinue" => some (listed BinaryTable.idCompatMathContinue)
  | "idcompatmathstart" => some (listed BinaryTable.idCompatMathStart)
  | "idcontinue" | "idc" => some idContinue
  | "idstart" | "ids" => some idStart
  | "ideographic" | "ideo" => some (listed BinaryTable.ideographic)
  | "joincontrol" | "joinc" => some (listed BinaryTable.joinControl)
  | "logicalorderexception" | "loe" => some (listed BinaryTable.logicalOrderException)
  | "lowercase" | "lower" => some lowercase
  | "math" => some math
  | "modifiercombiningmark" | "mcm" => some (listed BinaryTable.modifierCombiningMark)
  | "noncharactercodepoint" | "nchar" => some (listed BinaryTable.noncharacterCodePoint)
  | "otheralphabetic" | "oalpha" => some (listed BinaryTable.otherAlphabetic)
  | "otherdefaultignorablecodepoint" | "odi" =>
    some (listed BinaryTable.otherDefaultIgnorableCodePoint)
  | "othergraphemeextend" | "ogrext" => some (listed BinaryTable.otherGraphemeExtend)
  | "otheridcontinue" | "oidc" => some (listed BinaryTable.otherIdContinue)
  | "otheridstart" | "oids" => some (listed BinaryTable.otherIdStart)
  | "otherlowercase" | "olower" => some (listed BinaryTable.otherLowercase)
  | "othermath" | "omath" => some (listed BinaryTable.otherMath)
  | "otheruppercase" | "oupper" => some (listed BinaryTable.otherUppercase)
  | "patternsyntax" | "patsyn" => some (listed BinaryTable.patternSyntax)
  | "patternwhitespace" | "patws" => some (listed BinaryTable.patternWhiteSpace)
  | "prependedconcatenationmark" | "pcm" => some (listed BinaryTable.prependedConcatenationMark)
  | "quotationmark" | "qmark" => some (listed BinaryTable.quotationMark)
  | "radical" => some (listed BinaryTable.radical)
  | "regionalindicator" | "ri" => some (listed BinaryTable.regionalIndicator)
  | "sentenceterminal" | "sterm" => some (listed BinaryTable.sentenceTerminal)
  | "softdotted" | "sd" => some (listed BinaryTable.softDotted)
  | "terminalpunctuation" | "term" => some (listed BinaryTable.terminalPunctuation)
  | "unifiedideograph" | "uideo" => some (listed BinaryTable.unifiedIdeograph)
  | "uppercase" | "upper" => some uppercase
  | "variationselector" | "vs" => some (listed BinaryTable.variationSelector)
  | "whitespace" | "space" | "wspace" => some (listed BinaryTable.whiteSpace)
  | "xidcontinue" | "xidc" => some xidContinue
  | "xidstart" | "xids" => some xidStart
  | _ => none

end Worksheet.Property
