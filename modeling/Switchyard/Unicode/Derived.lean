import Switchyard.Unicode.Category
import Switchyard.Unicode.Contributory
import Switchyard.Unicode.Emoji
import Switchyard.Unicode.Folding
import Switchyard.Unicode.Listed

/-!
# Derived properties

Properties that a rule derives from general categories and from the characters listed beside them
(`Contributory`, `Listed`). Each table here is that rule, written as one set expression.
-/

namespace Switchyard.Unicode.Derived

open Category Contributory Listed

/-! ## Unions of general categories -/

/-- Letters with a case. -/
def casedLetter : Ranges :=
  Ranges.unionAll [uppercaseLetter, lowercaseLetter, titlecaseLetter]

/-- Letters of any kind. -/
def letter : Ranges := Ranges.unionAll [casedLetter, modifierLetter, otherLetter]

/-- Marks of any kind. -/
def mark : Ranges := Ranges.unionAll [nonspacingMark, spacingMark, enclosingMark]

/-- Numbers of any kind. -/
def number : Ranges := Ranges.unionAll [decimalNumber, letterNumber, otherNumber]

/-- Punctuation of any kind. -/
def punctuation : Ranges :=
  Ranges.unionAll [connectorPunctuation, dashPunctuation, openPunctuation, closePunctuation,
    initialPunctuation, finalPunctuation, otherPunctuation]

/-- Symbols of any kind. -/
def symbol : Ranges := Ranges.unionAll [mathSymbol, currencySymbol, modifierSymbol, otherSymbol]

/-- Separators of any kind. -/
def separator : Ranges := Ranges.unionAll [spaceSeparator, lineSeparator, paragraphSeparator]

/-- Characters of every category but the unassigned. -/
def assigned : Ranges :=
  Ranges.unionAll [letter, mark, number, punctuation, symbol, separator, control, format,
    privateUse]

/-- Values that have no category. -/
def unassigned : Ranges := assigned.complement.difference surrogates

/-- Controls, format controls, and values without a character of their own. -/
def other : Ranges := Ranges.unionAll [control, format, privateUse, unassigned]

/-! ## Letters and case -/

/-- Letters, letter numbers and the other alphabetic characters. -/
def alphabetic : Ranges := Ranges.unionAll [letter, letterNumber, otherAlphabetic]

/-- Lowercase characters. -/
def lowercase : Ranges := lowercaseLetter.union otherLowercase

/-- Uppercase characters. -/
def uppercase : Ranges := uppercaseLetter.union otherUppercase

/-- Characters with a case. -/
def cased : Ranges := Ranges.unionAll [lowercase, uppercase, titlecaseLetter]

/-- Characters that are passed over when the case of those around them is told. -/
def caseIgnorable : Ranges :=
  Ranges.unionAll [nonspacingMark, enclosingMark, format, modifierLetter, modifierSymbol,
    wordMiddle]

/-- Characters that lowercasing changes. The capital I with a dot is in no orbit, since its
lowercase form is two characters. -/
def changesLowercased : Ranges :=
  ((uppercase.union titlecaseLetter).intersection Folding.paired).union (Ranges.ofHex "130")

/-- Characters that uppercasing changes: those in an orbit, and those whose uppercase form is
several characters. -/
def changesUppercased : Ranges :=
  ((lowercase.union titlecaseLetter).intersection Folding.paired).union (Ranges.ofHex "
    131 149 1F0 587 1E96-1E9A 1F50 1F52 1F54 1F56 1FB2 1FB4 1FB6-1FB7 1FC2 1FC4 1FC6-1FC7 1FD2
    1FD6-1FD7 1FE2 1FE4 1FE6-1FE7 1FF2 1FF4 1FF6-1FF7 FB00-FB04 FB13-FB17")

/-- Characters that titlecasing changes: the capital digraphs have a titlecase form of their own,
and Georgian letters and the titlecase characters are their own. -/
def changesTitlecased : Ranges :=
  (changesUppercased.union (Ranges.ofHex "1C4 1C7 1CA 1F1")).difference (Ranges.ofHex "
    1C5 1C8 1CB 1F2 10D0-10FA 10FD-10FF 1F88-1F8F 1F98-1F9F 1FA8-1FAF 1FBC 1FCC 1FFC")

/-- Characters that case folding changes: those that lowercasing changes, variants of a letter, and
those whose folding is several characters. Cherokee folds to its capitals. -/
def changesFolded : Ranges :=
  (changesLowercased.union (Ranges.ofHex "
    B5 DF 149 17F 345 3C2 3D0-3D1 3D5-3D6 3F0-3F1 3F5 587 13F8-13FD 1C80-1C88 1E9A-1E9B 1F80-1F87
    1F90-1F97 1FA0-1FA7 1FB2-1FB4 1FB7 1FC2-1FC4 1FC7 1FF2-1FF4 1FF7 AB70-ABBF FB00-FB06
    FB13-FB17")).difference (Ranges.ofHex "13A0-13F5")

/-- Characters that some change of case changes. -/
def changesMapped : Ranges :=
  Ranges.unionAll [changesLowercased, changesUppercased, changesTitlecased]

/-! ## Words and identifiers -/

/-- Word characters: alphabetic ones, marks, digits, connectors and joiners. -/
def word : Ranges :=
  Ranges.unionAll [alphabetic, mark, decimalNumber, connectorPunctuation, joinControl]

/-- The characters that patterns keep for themselves. -/
def patternReserved : Ranges := patternSyntax.union patternWhiteSpace

/-- Characters that may start an identifier. -/
def idStart : Ranges :=
  (Ranges.unionAll [letter, letterNumber, otherIdStart]).difference patternReserved

/-- Characters that may go on an identifier. -/
def idContinue : Ranges :=
  (Ranges.unionAll [idStart, nonspacingMark, spacingMark, decimalNumber, connectorPunctuation,
    otherIdContinue]).difference patternReserved

/-- Characters that may start an identifier, whichever normal form it is in. -/
def stableIdStart : Ranges := idStart.difference unstableStart

/-- Characters that may go on an identifier, whichever normal form it is in. -/
def stableIdContinue : Ranges := idContinue.difference unstableContinue

/-- Mathematical characters. -/
def math : Ranges := mathSymbol.union otherMath

/-! ## Graphemes -/

/-- Characters that extend the grapheme before them. -/
def graphemeExtend : Ranges :=
  Ranges.unionAll [enclosingMark, nonspacingMark, otherGraphemeExtend]

/-- Characters that a grapheme can be built on. -/
def graphemeBase : Ranges :=
  (Ranges.unionAll [other, lineSeparator, paragraphSeparator, graphemeExtend,
    surrogates]).complement

/-- Characters that are left out where a font has no shape for them. -/
def defaultIgnorable : Ranges :=
  (Ranges.unionAll [format, variationSelector, otherDefaultIgnorable]).difference
    (Ranges.unionAll [whiteSpace, Ranges.ofHex "FFF9-FFFB 13430-1343F", prependedConcatenation])

end Switchyard.Unicode.Derived
