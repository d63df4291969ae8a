import Worksheet.Pattern.Property.Binary
import Worksheet.Pattern.Property.Script

/- Worksheet Breaks — what a character does where a text is broken into graphemes,
   words or sentences.

   Each of the three kinds of break has values of its own, which share out the
   characters that matter to it. A value is named by the names that the standard
   gives it, without what does not matter in a name. -/
namespace Worksheet.Property

/-! ## Graphemes -/

/-- The first syllables of each row of the Hangul block, which end in a vowel. -/
def hangulOpen : CharSet := .ofText ["AC00-D7A3/1C"]

def hangulClosed : CharSet := .diff (.ofRange 0xAC00 0xD7A3) hangulOpen

/-- Characters that end a grapheme on both sides. -/
def graphemeControl : CharSet :=
  .diff
    (.union (Category.anyOf [.control, .format, .lineSeparator, .paragraphSeparator])
      (.inter unassigned defaultIgnorable))
    (.union graphemeExtend
      (.union (listed BinaryTable.prependedConcatenationMark) (.ofText ["A D 200D"])))

/-- Characters that belong to the next one. -/
def graphemePrepend : CharSet :=
  .union (listed BinaryTable.prependedConcatenationMark)
    (.ofText ["D4E 111C2-111C3 113D1 1193F 11941 11A3A 11A84-11A89 11D46 11F02"])

/-- Marks beside the character that they belong to. -/
def graphemeSpacingMark : CharSet :=
  .diff (.union (Category.anyOf [.spacingMark]) (.ofText ["E33 EB3"]))
    (.union graphemeExtend
      (.ofText
        ["102B-102C 1038 1062-1064 1067-106D 1083 1087-108C 108F 109A-109C 1A61 1A63-1A64",
         "AA7B AA7D 11720-11721"]))

/-- The values of grapheme breaks. -/
def graphemeBreak? : String → Option CharSet
  | "cr" => some (.ofRange 13 13)
  | "lf" => some (.ofRange 10 10)
  | "cn" | "control" => some graphemeControl
  | "ex" | "extend" => some (.union graphemeExtend (listed BinaryTable.emojiModifier))
  | "zwj" => some (.ofRange 0x200D 0x200D)
  | "ri" | "regionalindicator" => some (listed BinaryTable.regionalIndicator)
  | "pp" | "prepend" => some graphemePrepend
  | "sm" | "spacingmark" => some graphemeSpacingMark
  | "l" => some (.ofText ["1100-115F A960-A97C"])
  | "v" => some (.ofText ["1160-11A7 D7B0-D7C6 16D63 16D67-16D6A"])
  | "t" => some (.ofText ["11A8-11FF D7CB-D7FB"])
  | "lv" => some hangulOpen
  | "lvt" => some hangulClosed
  | _ => none

/-! ## Words -/

/-- Signs that count as digits. The Arabic comma is a digit to sentences alone. -/
def digitSigns : List String := ["600-605 66B 6DD 890-891 8E2 19DA 110BD 110CD"]

def wordNumeric : CharSet := .union decimalDigits (.ofText digitSigns)

/-- Marks and modifiers, which belong to the character before. -/
def wordExtend : CharSet :=
  .union graphemeExtend
    (.union (Category.anyOf [.spacingMark]) (listed BinaryTable.emojiModifier))

def wordFormat : CharSet :=
  .diff (Category.anyOf [.format])
    (.union wordNumeric (.union wordExtend (.ofText ["70F 200B 200D"])))

/-- The characters of one of some scripts. -/
def inScripts (names : List String) : CharSet :=
  names.foldr (fun name s => .union ((script? name).getD .empty) s) .empty

def wordKatakana : CharSet :=
  .union (inScripts ["katakana"]) (.ofText ["3031-3035 309B-309C 30A0 30FC FF70"])

def wordHebrew : CharSet := .inter (inScripts ["hebrew"]) (Category.anyOf [.otherLetter])

/-- Letters of the scripts that put blanks between words. -/
def wordLetter : CharSet :=
  .union
    (.diff alphabetic
      (.union (listed BinaryTable.ideographic)
        (.union wordKatakana
          (.union wordHebrew
            (.union wordExtend
              (inScripts ["hiragana", "thai", "lao", "myanmar", "khmer", "taile", "newtailue",
                "taitham", "taiviet", "ahom"]))))))
    (.ofText
      ["2C2-2C5 2D2-2D7 2DE-2DF 2E5-2EB 2ED 2EF-2FF 55A-55C 55E 58A 5F3 70F A708-A716",
       "A720-A721 A789-A78A AB5B"])

/-- The values of word breaks. -/
def wordBreak? : String → Option CharSet
  | "cr" => some (.ofRange 13 13)
  | "lf" => some (.ofRange 10 10)
  | "nl" | "newline" => some (.ofText ["B-C 85 2028-2029"])
  | "dq" | "doublequote" => some (.ofRange 0x22 0x22)
  | "sq" | "singlequote" => some (.ofRange 0x27 0x27)
  | "mb" | "midnumlet" => some (.ofText ["2E 2018-2019 2024 FE52 FF07 FF0E"])
  | "ml" | "midletter" => some (.ofText ["3A B7 387 55F 5F4 2027 FE13 FE55 FF1A"])
  | "mn" | "midnum" =>
    some (.ofText ["2C 3B 37E 589 60C-60D 66C 7F8 2044 FE50 FE54 FF0C FF1B"])
  | "ex" | "extendnumlet" =>
    some (.ofText ["5F 202F 203F-2040 2054 FE33-FE34 FE4D-FE4F FF3F"])
  | "wsegspace" => some (.ofText ["20 1680 2000-2006 2008-200A 205F 3000"])
  | "zwj" => some (.ofRange 0x200D 0x200D)
  | "ri" | "regionalindicator" => some (listed BinaryTable.regionalIndicator)
  | "extend" => some (.diff wordExtend (.ofRange 0x200D 0x200D))
  | "fo" | "format" => some wordFormat
  | "ka" | "katakana" => some wordKatakana
  | "hl" | "hebrewletter" => some wordHebrew
  | "le" | "aletter" => some wordLetter
  | "nu" | "numeric" => some wordNumeric
  | _ => none

/-! ## Sentences -/

/-- Full stops that may end a sentence or an abbreviation. -/
def fullStops : CharSet := .ofText ["2E 2024 FE52 FF0E"]

def sentenceNumeric : CharSet := .union decimalDigits (.ofText ("66C" :: digitSigns))

def sentenceExtend : CharSet :=
  .union graphemeExtend (.union (Category.anyOf [.spacingMark]) (.ofRange 0x200D 0x200D))

def sentenceFormat : CharSet :=
  .diff (Category.anyOf [.format]) (.union sentenceNumeric sentenceExtend)

/-- Lower case. The Georgian letters have capitals, but do not start sentences by case. -/
def sentenceLower : CharSet :=
  .diff lowercase (.union graphemeExtend (.ofText ["10D0-10FA 10FD-10FF"]))

def sentenceUpper : CharSet :=
  .diff (.union uppercase (Category.anyOf [.titlecaseLetter])) (.ofText ["1C90-1CBA 1CBD-1CBF"])

/-- Letters that are neither lower nor upper case here. -/
def sentenceLetter : CharSet :=
  .diff (.union alphabetic (.ofRange 0x5F3 0x5F3))
    (.union sentenceLower (.union sentenceUpper sentenceExtend))

/-- Quotation marks and brackets. -/
def sentenceClose : CharSet :=
  .diff
    (.union
      (Category.anyOf
        [.openPunctuation, .closePunctuation, .initialPunctuation, .finalPunctuation])
      (.union (listed BinaryTable.quotationMark)
        (.ofText ["275B-2760 2E00-2E01 2E06-2E08 2E0B 1F676-1F678"])))
    (.ofText ["FF02 FF07"])

/-- The values of sentence breaks. -/
def sentenceBreak? : String → Option CharSet
  | "cr" => some (.ofRange 13 13)
  | "lf" => some (.ofRange 10 10)
  | "se" | "sep" => some (.ofText ["85 2028-2029"])
  | "sp" => some (.diff (listed BinaryTable.whiteSpace) (.ofText ["A D 85 2028-2029"]))
  | "at" | "aterm" => some fullStops
  | "st" | "sterm" => some (.diff (listed BinaryTable.sentenceTerminal) fullStops)
  | "cl" | "close" => some sentenceClose
  | "sc" | "scontinue" =>
    some (.ofText
      ["2C-2D 3A-3B 37E 55D 60C-60D 7F8 1802 1808 2013-2014 3001 FE10-FE11 FE13-FE14",
       "FE31-FE32 FE50-FE51 FE54-FE55 FE58 FE63 FF0C-FF0D FF1A-FF1B FF64"])
  | "nu" | "numeric" => some sentenceNumeric
  | "ex" | "extend" => some sentenceExtend
  | "fo" | "format" => some sentenceFormat
  | "lo" | "lower" => some sentenceLower
  | "up" | "upper" => some sentenceUpper
  | "le" | "oletter" => some sentenceLetter
  | _ => none

end Worksheet.Property
