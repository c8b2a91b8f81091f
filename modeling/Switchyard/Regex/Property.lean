import Switchyard.Text.Split
import Switchyard.Unicode.Age
import Switchyard.Unicode.Break
import Switchyard.Unicode.Derived
import Switchyard.Unicode.Script

/-!
# Named properties

A property is asked for by a loose name, as in `\p{Greek}` or `\p{Lu}`: case, spaces, hyphens,
low lines and a leading `is` do not count. A name alone is tried as a binary property, then as a
general category, then as a script; `name=value` asks for a value of the property outright.
-/

namespace Switchyard.Regex.Property

open Unicode

/-- The loose form of a name. The name `isc` is no script without its `is` and stays whole. -/
def loose (name : List Char) : List Char :=
  let kept := fun (text : List Char) =>
    (text.filter fun c => c.toNat < 128 && c != ' ' && c != '_' && c != '-').map Char.toLower
  match name with
  | i :: s :: rest =>
    if i.toLower = 'i' ∧ s.toLower = 's' then
      if kept rest = ['c'] then ['i', 's', 'c'] else kept rest
    else kept name
  | _ => kept name

/-- The general category of that loose name. -/
def category? (name : List Char) : Option Ranges :=
  match String.ofList name with
  | "any" => some (Ranges.ofHex "0-10FFFF")
  | "ascii" => some (Ranges.ofHex "0-7F")
  | "assigned" => some Derived.assigned
  | "l" | "letter" => some Derived.letter
  | "lc" | "casedletter" => some Derived.casedLetter
  | "lu" | "uppercaseletter" => some Category.uppercaseLetter
  | "ll" | "lowercaseletter" => some Category.lowercaseLetter
  | "lt" | "titlecaseletter" => some Category.titlecaseLetter
  | "lm" | "modifierletter" => some Category.modifierLetter
  | "lo" | "otherletter" => some Category.otherLetter
  | "m" | "mark" | "combiningmark" => some Derived.mark
  | "mn" | "nonspacingmark" => some Category.nonspacingMark
  | "mc" | "spacingmark" => some Category.spacingMark
  | "me" | "enclosingmark" => some Category.enclosingMark
  | "n" | "number" => some Derived.number
  | "nd" | "decimalnumber" | "digit" => some Category.decimalNumber
  | "nl" | "letternumber" => some Category.letterNumber
  | "no" | "othernumber" => some Category.otherNumber
  | "p" | "punctuation" | "punct" => some Derived.punctuation
  | "pc" | "connectorpunctuation" => some Category.connectorPunctuation
  | "pd" | "dashpunctuation" => some Category.dashPunctuation
  | "ps" | "openpunctuation" => some Category.openPunctuation
  | "pe" | "closepunctuation" => some Category.closePunctuation
  | "pi" | "initialpunctuation" => some Category.initialPunctuation
  | "pf" | "finalpunctuation" => some Category.finalPunctuation
  | "po" | "otherpunctuation" => some Category.otherPunctuation
  | "s" | "symbol" => some Derived.symbol
  | "sm" | "mathsymbol" => some Category.mathSymbol
  | "sc" | "currencysymbol" => some Category.currencySymbol
  | "sk" | "modifiersymbol" => some Category.modifierSymbol
  | "so" | "othersymbol" => some Category.otherSymbol
  | "z" | "separator" => some Derived.separator
  | "zs" | "spaceseparator" => some Category.spaceSeparator
  | "zl" | "lineseparator" => some Category.lineSeparator
  | "zp" | "paragraphseparator" => some Category.paragraphSeparator
  | "c" | "other" => some Derived.other
  | "cc" | "control" | "cntrl" => some Category.control
  | "cf" | "format" => some Category.format
  | "co" | "privateuse" => some Category.privateUse
  | "cn" | "unassigned" => some Derived.unassigned
  | _ => none

/-- The binary property of that loose name. -/
def binary? (name : List Char) : Option Ranges :=
  match String.ofList name with
  | "ahex" | "asciihexdigit" => some Listed.asciiHexDigit
  | "alpha" | "alphabetic" => some Derived.alphabetic
  | "bidic" | "bidicontrol" => some Listed.bidiControl
  | "bidim" | "bidimirrored" => some Listed.bidiMirrored
  | "cased" => some Derived.cased
  | "ci" | "caseignorable" => some Derived.caseIgnorable
  | "cwcf" | "changeswhencasefolded" => some Derived.changesFolded
  | "cwcm" | "changeswhencasemapped" => some Derived.changesMapped
  | "cwl" | "changeswhenlowercased" => some Derived.changesLowercased
  | "cwt" | "changeswhentitlecased" => some Derived.changesTitlecased
  | "cwu" | "changeswhenuppercased" => some Derived.changesUppercased
  | "dash" => some Listed.dash
  | "dep" | "deprecated" => some Listed.deprecated
  | "di" | "defaultignorablecodepoint" => some Derived.defaultIgnorable
  | "dia" | "diacritic" => some Listed.diacritic
  | "ebase" | "emojimodifierbase" => some Emoji.modifierBase
  | "ecomp" | "emojicomponent" => some Emoji.component
  | "emod" | "emojimodifier" => some Emoji.modifier
  | "emoji" => some Emoji.emoji
  | "epres" | "emojipresentation" => some Emoji.presentation
  | "ext" | "extender" => some Listed.extender
  | "extpict" | "extendedpictographic" => some Emoji.pictographic
  | "grbase" | "graphemebase" => some Derived.graphemeBase
  | "grext" | "graphemeextend" => some Derived.graphemeExtend
  | "grlink" | "graphemelink" => some Listed.virama
  | "hex" | "hexdigit" => some Listed.hexDigit
  | "hyphen" => some Listed.hyphen
  | "idc" | "idcontinue" => some Derived.idContinue
  | "ids" | "idstart" => some Derived.idStart
  | "idcompatmathcontinue" => some Listed.idCompatMathContinue
  | "idcompatmathstart" => some Listed.idCompatMathStart
  | "ideo" | "ideographic" => some Listed.ideographic
  | "idsb" | "idsbinaryoperator" => some Listed.idsBinary
  | "idst" | "idstrinaryoperator" => some Listed.idsTrinary
  | "idsu" | "idsunaryoperator" => some Listed.idsUnary
  | "joinc" | "joincontrol" => some Contributory.joinControl
  | "loe" | "logicalorderexception" => some Listed.logicalOrderException
  | "lower" | "lowercase" => some Derived.lowercase
  | "math" => some Derived.math
  | "mcm" | "modifiercombiningmark" => some Listed.combiningModifier
  | "nchar" | "noncharactercodepoint" => some Listed.noncharacter
  | "oalpha" | "otheralphabetic" => some Contributory.otherAlphabetic
  | "odi" | "otherdefaultignorablecodepoint" => some Contributory.otherDefaultIgnorable
  | "ogrext" | "othergraphemeextend" => some Contributory.otherGraphemeExtend
  | "oidc" | "otheridcontinue" => some Contributory.otherIdContinue
  | "oids" | "otheridstart" => some Contributory.otherIdStart
  | "olower" | "otherlowercase" => some Contributory.otherLowercase
  | "omath" | "othermath" => some Contributory.otherMath
  | "oupper" | "otheruppercase" => some Contributory.otherUppercase
  | "patsyn" | "patternsyntax" => some Listed.patternSyntax
  | "patws" | "patternwhitespace" => some Listed.patternWhiteSpace
  | "pcm" | "prependedconcatenationmark" => some Listed.prependedConcatenation
  | "qmark" | "quotationmark" => some Listed.quotationMark
  | "radical" => some Listed.radical
  | "ri" | "regionalindicator" => some Emoji.regionalIndicator
  | "sd" | "softdotted" => some Listed.softDotted
  | "sterm" | "sentenceterminal" => some Listed.sentenceTerminal
  | "term" | "terminalpunctuation" => some Listed.terminalPunctuation
  | "uideo" | "unifiedideograph" => some Listed.unifiedIdeograph
  | "upper" | "uppercase" => some Derived.uppercase
  | "vs" | "variationselector" => some Listed.variationSelector
  | "wspace" | "space" | "whitespace" => some Contributory.whiteSpace
  | "xidc" | "xidcontinue" => some Derived.stableIdContinue
  | "xids" | "xidstart" => some Derived.stableIdStart
  | _ => none

/-- The property that one loose name asks for. -/
def named? (name : List Char) : Option Ranges :=
  binary? name <|> category? name <|> Script.ranges? name

/-- The property that a loose name and a loose value ask for together. -/
def valued? (name value : List Char) : Option Ranges :=
  match String.ofList name with
  | "gc" | "generalcategory" => category? value
  | "sc" | "script" => Script.ranges? value
  | "scx" | "scriptextensions" => Script.extension? value
  | "age" => Age.ranges? value
  | "gcb" | "graphemeclusterbreak" => Break.Grapheme.class? value
  | "wb" | "wordbreak" => Break.Word.class? value
  | "sb" | "sentencebreak" => Break.Sentence.class? value
  | _ => none

/-- What the text between the braces of `\p{…}` asks for: the characters with a property, or those
without it. -/
structure Query where
  negated : Bool
  ranges : Ranges

/-- The first place where `mark` stands in the text: what is before it, and what is after. -/
def around? (mark : List Char) : List Char → Option (List Char × List Char)
  | [] => none
  | c :: rest =>
    match Text.stripStart? mark (c :: rest) with
    | some after => some ([], after)
    | none => (around? mark rest).map fun pair => (c :: pair.1, pair.2)

/-- Reads the text between the braces of `\p{…}`. A value may be joined to its name by `!=`, which
asks for the characters without the property, by `:` or by `=`. -/
def Query.ofBraces? (text : List Char) : Option Query :=
  match around? ['!', '='] text with
  | some (name, value) => (valued? (loose name) (loose value)).map (Query.mk true)
  | none =>
    match around? [':'] text <|> around? ['='] text with
    | some (name, value) => (valued? (loose name) (loose value)).map (Query.mk false)
    | none => (named? (loose text)).map (Query.mk false)

/-- Reads a single letter in place of a name between braces. -/
def Query.ofLetter? (c : Char) : Option Query := (named? (loose [c])).map (Query.mk false)

end Switchyard.Regex.Property
