import Parley.Unicode.Property

/-!
# Parley.Unicode.Segmentation

The classes by which a text is cut into characters as readers see them, into words and into
sentences. Each way of cutting puts a code point into one class at most. The classes follow the
general category and the other properties, with few exceptions.

* `clusterBreaks`, `wordBreaks`, `sentenceBreaks`: the names of the classes and their code points.
-/

namespace Parley
namespace Unicode

open Category

/-- What extends the character before it. -/
def extend : CodeSet := graphemeExtending.union emojiModifier

/-- What stands alone and has no mark. -/
def clusterControl : CodeSet :=
  (CodeSet.unions [controlSet, formatSet, lineSeparatorSet, paragraphSeparatorSet,
    unassigned.inter defaultIgnorable]).diff
    (prependedConcatenationMark.union (CodeSet.ofText "A D 200C-200D E0020-E007F"))

/-- Marks with room of their own that belong to the character before them. -/
def clusterSpacingMark : CodeSet := ((spacingMarkSet.diff graphemeExtending).diff (CodeSet.ofText
  "102B-102C 1038 1062-1064 1067-106D 1083 1087-108C 108F 109A-109C 1A61 1A63-1A64 AA7B AA7D
  11720-11721")).union (CodeSet.ofText "E33 EB3")

/-- What belongs to the character behind it. -/
def clusterPrepend : CodeSet := CodeSet.ofText
  "600-605 6DD 70F 890-891 8E2 D4E 110BD 110CD 111C2-111C3 113D1 1193F 11941 11A3A
  11A84-11A89 11D46 11F02"

/-- Hangul syllables without a final consonant: every twenty-eighth. -/
def hangulOpen : CodeSet :=
  CodeSet.ofRanges ((List.range 399).map fun i => (0xAC00 + 28 * i, 0xAC00 + 28 * i))

/-- Hangul syllables with a final consonant. -/
def hangulClosed : CodeSet := (CodeSet.range 0xAC00 0xD7A3).diff hangulOpen

def regionalIndicator : CodeSet := CodeSet.ofText "1F1E6-1F1FF"

/-- What extends the character before it, marks with room of their own included. -/
def wordExtend : CodeSet :=
  CodeSet.unions [graphemeExtending, spacingMarkSet, emojiModifier]

def wordKatakana : CodeSet := CodeSet.ofText
  "3031-3035 309B-309C 30A0-30FA 30FC-30FF 31F0-31FF 32D0-32FE 3300-3357 FF66-FF9D
  1AFF0-1AFF3 1AFF5-1AFFB 1AFFD-1AFFE 1B000 1B120-1B122 1B155 1B164-1B167"

def hebrewLetter : CodeSet := CodeSet.ofText
  "5D0-5EA 5EF-5F2 FB1D FB1F-FB28 FB2A-FB36 FB38-FB3C FB3E FB40-FB41 FB43-FB44 FB46-FB4F"

/-- Letters of scripts that put blanks between words. -/
def wordLetter : CodeSet :=
  ((alphabetic.diff (CodeSet.unions [ideographic, wordKatakana, hebrewLetter, wordExtend])).diff
    (CodeSet.ofText
    "E01-E30 E32-E33 E40-E46 E81-E82 E84 E86-E8A E8C-EA3 EA5 EA7-EB0 EB2-EB3 EBD EC0-EC4 EC6
    EDC-EDF 1000-102A 103F 1050-1055 105A-105D 1061 1065-1066 106E-1070 1075-1081 108E
    1780-17B3 17D7 17DC 1950-196D 1970-1974 1980-19AB 19B0-19C9 1A20-1A54 1AA7 3041-3096
    309D-309F A9E0-A9E4 A9E6-A9EF A9FA-A9FE AA60-AA76 AA7A AA7E-AAAF AAB1 AAB5-AAB6
    AAB9-AABD AAC0 AAC2 AADB-AADD 11700-1171A 11740-11746 1B001-1B11F 1B132 1B150-1B152")).union
    (CodeSet.ofText
    "2C2-2C5 2D2-2D7 2DE-2DF 2E5-2EB 2ED 2EF-2FF 55A-55C 55E 58A 5F3 70F A708-A716 A720-A721
    A789-A78A AB5B")

def wordFormat : CodeSet := formatSet.diff (CodeSet.ofText
  "600-605 6DD 70F 890-891 8E2 200B-200D 110BD 110CD E0020-E007F")

def wordNumeric : CodeSet := decimalNumberSet.union (CodeSet.ofText
  "600-605 66B 6DD 890-891 8E2 19DA 110BD 110CD")

def sentenceExtend : CodeSet := CodeSet.unions [graphemeExtending, spacingMarkSet, joinControl]

def sentenceLower : CodeSet :=
  lowercase.diff (graphemeExtending.union (CodeSet.ofText "10D0-10FA 10FD-10FF"))

def sentenceUpper : CodeSet :=
  (uppercase.union titlecaseLetterSet).diff (CodeSet.ofText "1C90-1CBA 1CBD-1CBF")

/-- Letters of a sentence that have no case. -/
def sentenceOther : CodeSet :=
  (alphabetic.union (CodeSet.ofText "5F3")).diff
    (CodeSet.unions [sentenceLower, sentenceUpper, sentenceExtend])

def sentenceFormat : CodeSet := formatSet.diff (CodeSet.ofText
  "600-605 6DD 890-891 8E2 200C-200D 110BD 110CD E0020-E007F")

def sentenceNumeric : CodeSet := decimalNumberSet.union (CodeSet.ofText
  "600-605 66B-66C 6DD 890-891 8E2 19DA 110BD 110CD")

def sentenceClose : CodeSet := ((CodeSet.unions [openPunctuationSet, closePunctuationSet,
  initialPunctuationSet, finalPunctuationSet, quotationMark]).diff
  (CodeSet.ofText "FF02 FF07")).union
  (CodeSet.ofText "275B-2760 2E00-2E01 2E06-2E08 2E0B 1F676-1F678")

/-- Full stops, which need not end a sentence. -/
def fullStop : CodeSet := CodeSet.ofText "2E 2024 FE52 FF0E"

def sentenceBlank : CodeSet := blank.diff (CodeSet.ofText "A D 85 2028-2029")

/-- The classes of code points where characters end, as readers see them. -/
def clusterBreaks : List (List String × CodeSet) :=
  [(["cr"], CodeSet.ofText "D"),
   (["control", "cn"], clusterControl),
   (["extend", "ex"], extend),
   (["l"], CodeSet.ofText "1100-115F A960-A97C"),
   (["lf"], CodeSet.ofText "A"),
   (["lv"], hangulOpen),
   (["lvt"], hangulClosed),
   (["prepend", "pp"], clusterPrepend),
   (["regionalindicator", "ri"], regionalIndicator),
   (["spacingmark", "sm"], clusterSpacingMark),
   (["t"], CodeSet.ofText "11A8-11FF D7CB-D7FB"),
   (["v"], CodeSet.ofText "1160-11A7 D7B0-D7C6 16D63 16D67-16D6A"),
   (["zwj"], CodeSet.ofText "200D")]

/-- The classes of code points where words end. -/
def wordBreaks : List (List String × CodeSet) :=
  [(["aletter", "le"], wordLetter),
   (["cr"], CodeSet.ofText "D"),
   (["doublequote", "dq"], CodeSet.ofText "22"),
   (["extend"], wordExtend),
   (["extendnumlet", "ex"], connectorPunctuationSet.union (CodeSet.ofText "202F")),
   (["format", "fo"], wordFormat),
   (["hebrewletter", "hl"], hebrewLetter),
   (["katakana", "ka"], wordKatakana),
   (["lf"], CodeSet.ofText "A"),
   (["midletter", "ml"], CodeSet.ofText "3A B7 387 55F 5F4 2027 FE13 FE55 FF1A"),
   (["midnum", "mn"], CodeSet.ofText
    "2C 3B 37E 589 60C-60D 66C 7F8 2044 FE50 FE54 FF0C FF1B"),
   (["midnumlet", "mb"], CodeSet.ofText "2E 2018-2019 2024 FE52 FF07 FF0E"),
   (["newline", "nl"], CodeSet.ofText "B-C 85 2028-2029"),
   (["numeric", "nu"], wordNumeric),
   (["regionalindicator", "ri"], regionalIndicator),
   (["singlequote", "sq"], CodeSet.ofText "27"),
   (["wsegspace"], CodeSet.ofText "20 1680 2000-2006 2008-200A 205F 3000"),
   (["zwj"], CodeSet.ofText "200D")]

/-- The classes of code points where sentences end. -/
def sentenceBreaks : List (List String × CodeSet) :=
  [(["aterm", "at"], fullStop),
   (["cr"], CodeSet.ofText "D"),
   (["close", "cl"], sentenceClose),
   (["extend", "ex"], sentenceExtend),
   (["format", "fo"], sentenceFormat),
   (["lf"], CodeSet.ofText "A"),
   (["lower", "lo"], sentenceLower),
   (["numeric", "nu"], sentenceNumeric),
   (["oletter", "le"], sentenceOther),
   (["scontinue", "sc"], CodeSet.ofText
    "2C-2D 3A-3B 37E 55D 60C-60D 7F8 1802 1808 2013-2014 3001 FE10-FE11 FE13-FE14 FE31-FE32
    FE50-FE51 FE54-FE55 FE58 FE63 FF0C-FF0D FF1A-FF1B FF64"),
   (["sterm", "st"], sentenceTerminal.diff fullStop),
   (["sep", "se"], CodeSet.ofText "85 2028-2029"),
   (["sp"], sentenceBlank),
   (["upper", "up"], sentenceUpper)]

/-- The class with this loose name. -/
def breakClass? (classes : List (List String × CodeSet)) (name : String) : Option CodeSet :=
  (classes.find? fun row => row.1.contains name).map (·.2)

end Unicode
end Parley
