import Switchyard.Unicode.Derived
import Switchyard.Unicode.Script

/-!
# Break properties

What a character counts as where text is cut into graphemes, words and sentences. Each cut has its
own classes, and a character is in at most one class of a cut; here are the classes with a name,
by the names they answer to in loose form. Characters in none of them are in no class that can be
asked for.
-/

namespace Switchyard.Unicode.Break

open Category Contributory Listed Derived

/-- The non-joiner and the joiner. -/
def joiners : Ranges := Ranges.ofHex "200C-200D"

/-- The joiner. -/
def zeroWidthJoiner : Ranges := Ranges.ofHex "200D"

/-- The carriage return. -/
def carriageReturn : Ranges := Ranges.ofHex "D"

/-- The line feed. -/
def lineFeed : Ranges := Ranges.ofHex "A"

/-! ## Graphemes -/

namespace Grapheme

/-- Characters that stay with the grapheme before them, modifiers of emoji among them. -/
def extend : Ranges := graphemeExtend.union Emoji.modifier

/-- Controls, which stand alone. -/
def control : Ranges :=
  (Ranges.unionAll [lineSeparator, paragraphSeparator, Category.control, format,
    unassigned.intersection defaultIgnorable]).difference
      (Ranges.unionAll [carriageReturn, lineFeed, joiners, prependedConcatenation, extend])

/-- Spacing marks that stay with the grapheme before them. -/
def spacingMark : Ranges :=
  (Category.spacingMark.union (Ranges.ofHex "E33 EB3")).difference
    (graphemeExtend.union (Ranges.ofHex "
      102B-102C 1038 1062-1064 1067-106D 1083 1087-108C 108F 109A-109C 1A61 1A63-1A64 AA7B AA7D
      11720-11721"))

/-- Characters that stay with the grapheme after them. -/
def prepended : Ranges :=
  prependedConcatenation.union (Ranges.ofHex "
    D4E 111C2-111C3 113D1 1193F 11941 11A3A 11A84-11A89 11D46 11F02")

/-- Korean syllables that end with their vowel. -/
def openSyllable : Ranges :=
  (List.range 399).map fun index => (0xAC00 + 28 * index, 0xAC00 + 28 * index)

/-- Korean syllables that end with a consonant. -/
def closedSyllable : Ranges :=
  (List.range 399).map fun index => (0xAC01 + 28 * index, 0xAC1B + 28 * index)

/-- The class of that loose name. -/
def class? (name : List Char) : Option Ranges :=
  match String.ofList name with
  | "cn" | "control" => some control
  | "cr" => some carriageReturn
  | "ex" | "extend" => some extend
  | "l" => some (Ranges.ofHex "1100-115F A960-A97C")
  | "lf" => some lineFeed
  | "lv" => some openSyllable
  | "lvt" => some closedSyllable
  | "pp" | "prepend" => some prepended
  | "ri" | "regionalindicator" => some Emoji.regionalIndicator
  | "sm" | "spacingmark" => some spacingMark
  | "t" => some (Ranges.ofHex "11A8-11FF D7CB-D7FB")
  | "v" => some (Ranges.ofHex "1160-11A7 D7B0-D7C6 16D63 16D67-16D6A")
  | "zwj" => some zeroWidthJoiner
  | _ => none

end Grapheme

/-! ## Words -/

namespace Word

/-- Characters that stay with the word before them. -/
def extend : Ranges :=
  (Ranges.unionAll [graphemeExtend, Category.spacingMark, Emoji.modifier]).difference
    zeroWidthJoiner

/-- Format controls, which words pass over. -/
def formatControl : Ranges :=
  format.difference (Ranges.unionAll [Ranges.ofHex "200B E0020-E007F", joiners,
    prependedConcatenation])

/-- Digits, and signs that stand before or after them. -/
def numeric : Ranges :=
  decimalNumber.union (Ranges.ofHex "600-605 66B 6DD 890-891 8E2 19DA 110BD 110CD")

/-- Katakana and its signs. -/
def katakana : Ranges := Ranges.ofHex "
  3031-3035 309B-309C 30A0-30FA 30FC-30FF 31F0-31FF 32D0-32FE 3300-3357 FF66-FF9D 1AFF0-1AFF3
  1AFF5-1AFFB 1AFFD-1AFFE 1B000 1B120-1B122 1B155 1B164-1B167"

/-- Letters of Hebrew. -/
def hebrewLetter : Ranges :=
  ((Script.ranges? "hebr".toList).getD []).intersection otherLetter

/-- Letters of the scripts of South East Asia, whose words a dictionary has to tell apart. -/
def complexContext : Ranges := Ranges.ofHex "
  E01-E30 E32-E33 E40-E46 E81-E82 E84 E86-E8A E8C-EA3 EA5 EA7-EB0 EB2-EB3 EBD EC0-EC4 EC6 EDC-EDF
  1000-102A 103F 1050-1055 105A-105D 1061 1065-1066 106E-1070 1075-1081 108E 1780-17B3 17D7 17DC
  1950-196D 1970-1974 1980-19AB 19B0-19C9 1A20-1A54 1AA7 A9E0-A9E4 A9E6-A9EF A9FA-A9FE AA60-AA76
  AA7A AA7E-AAAF AAB1 AAB5-AAB6 AAB9-AABD AAC0 AAC2 AADB-AADD 11700-1171A 11740-11746"

/-- Letters that words are made of. -/
def letter : Ranges :=
  (alphabetic.difference (Ranges.unionAll [ideographic, katakana, complexContext,
    (Script.ranges? "hira".toList).getD [], extend, hebrewLetter])).union (Ranges.ofHex "
      B8 2C2-2C5 2D2-2D7 2DE-2DF 2E5-2EB 2ED 2EF-2FF 55A-55C 55E 58A 5F3 70F A708-A716 A720-A721
      A789-A78A AB5B")

/-- The class of that loose name. -/
def class? (name : List Char) : Option Ranges :=
  match String.ofList name with
  | "cr" => some carriageReturn
  | "dq" | "doublequote" => some (Ranges.ofHex "22")
  | "ex" | "extendnumlet" => some (Ranges.ofHex "5F 202F 203F-2040 2054 FE33-FE34 FE4D-FE4F FF3F")
  | "extend" => some extend
  | "fo" | "format" => some formatControl
  | "hl" | "hebrewletter" => some hebrewLetter
  | "ka" | "katakana" => some katakana
  | "le" | "aletter" => some letter
  | "lf" => some lineFeed
  | "mb" | "midnumlet" => some (Ranges.ofHex "2E 2018-2019 2024 FE52 FF07 FF0E")
  | "ml" | "midletter" => some (Ranges.ofHex "3A B7 387 55F 5F4 2027 FE13 FE55 FF1A")
  | "mn" | "midnum" =>
    some (Ranges.ofHex "2C 3B 37E 589 60C-60D 66C 7F8 2044 FE50 FE54 FF0C FF1B")
  | "nl" | "newline" => some (Ranges.ofHex "B-C 85 2028-2029")
  | "nu" | "numeric" => some numeric
  | "ri" | "regionalindicator" => some Emoji.regionalIndicator
  | "sq" | "singlequote" => some (Ranges.ofHex "27")
  | "wsegspace" => some (Ranges.ofHex "20 1680 2000-2006 2008-200A 205F 3000")
  | "zwj" => some zeroWidthJoiner
  | _ => none

end Word

/-! ## Sentences -/

namespace Sentence

/-- Characters that stay with the character before them. -/
def extend : Ranges :=
  Ranges.unionAll [graphemeExtend, Category.spacingMark, zeroWidthJoiner]

/-- Format controls, which sentences pass over. -/
def formatControl : Ranges :=
  (format.difference (joiners.union prependedConcatenation)).union (Ranges.ofHex "70F")
    |>.difference graphemeExtend

/-- Lowercase characters; Georgian has no case that tells where a sentence starts. -/
def lower : Ranges :=
  lowercase.difference (graphemeExtend.union (Ranges.ofHex "10D0-10FA 10FD-10FF"))

/-- Uppercase and titlecase characters but for those of Georgian. -/
def upper : Ranges :=
  (uppercase.union titlecaseLetter).difference (Ranges.ofHex "1C90-1CBA 1CBD-1CBF")

/-- Letters without a case. -/
def otherLetter : Ranges :=
  (alphabetic.union (Ranges.ofHex "5F3")).difference (Ranges.unionAll [lower, upper, extend])

/-- Full stops, which may also end an abbreviation. -/
def fullStop : Ranges := Ranges.ofHex "2E 2024 FE52 FF0E"

/-- Quotation marks and brackets that can stand after the end of a sentence. -/
def close : Ranges :=
  Ranges.unionAll [openPunctuation, closePunctuation, initialPunctuation, finalPunctuation,
    Ranges.ofHex "22 27 275B-2760 2E00-2E01 2E06-2E08 2E0B 1F676-1F678"]

/-- The class of that loose name. -/
def class? (name : List Char) : Option Ranges :=
  match String.ofList name with
  | "at" | "aterm" => some fullStop
  | "cl" | "close" => some close
  | "cr" => some carriageReturn
  | "ex" | "extend" => some extend
  | "fo" | "format" => some formatControl
  | "le" | "oletter" => some otherLetter
  | "lf" => some lineFeed
  | "lo" | "lower" => some lower
  | "nu" | "numeric" => some (Word.numeric.union (Ranges.ofHex "66C"))
  | "sc" | "scontinue" =>
    some (Ranges.ofHex "
      2C-2D 3A-3B 37E 55D 60C-60D 7F8 1802 1808 2013-2014 3001 FE10-FE11 FE13-FE14 FE31-FE32
      FE50-FE51 FE54-FE55 FE58 FE63 FF0C-FF0D FF1A-FF1B FF64")
  | "se" | "sep" => some (Ranges.ofHex "85 2028-2029")
  | "sp" => some (Ranges.ofHex "9 B-C 20 A0 1680 2000-200A 202F 205F 3000")
  | "st" | "sterm" => some (sentenceTerminal.difference fullStop)
  | "up" | "upper" => some upper
  | _ => none

end Sentence

end Switchyard.Unicode.Break
