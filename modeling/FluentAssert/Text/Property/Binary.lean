import FluentAssert.Text.Fold
import FluentAssert.Text.Property.BinaryTable
import FluentAssert.Text.Property.Category

/-! Properties that a character has or has not, in edition 16.0 of the Unicode standard. Most of
them follow from the category, up to a few exceptions. -/
namespace FluentAssert.Text

inductive BinaryProperty where
  | asciiHexDigit | alphabetic | bidiControl | bidiMirrored | caseIgnorable | cased
  | changesWhenCasefolded | changesWhenCasemapped | changesWhenLowercased
  | changesWhenTitlecased | changesWhenUppercased
  | dash | defaultIgnorable | deprecated | diacritic
  | emoji | emojiComponent | emojiModifier | emojiModifierBase | emojiPresentation | pictographic
  | extender | graphemeBase | graphemeExtend | graphemeLink | hexDigit | hyphen
  | binaryDescription | trinaryDescription | unaryDescription
  | mathContinue | mathStart | idContinue | idStart | ideographic | joinControl
  | logicalOrderException | lowercase | math | modifierCombiningMark | noncharacter
  | otherAlphabetic | otherIgnorable | otherGraphemeExtend | otherIdContinue | otherIdStart
  | otherLowercase | otherMath | otherUppercase | patternSyntax | patternBlank
  | prependedMark | quotationMark | radical | regionalIndicator | sentenceTerminal | softDotted
  | termination | unifiedIdeograph | uppercase | variationSelector | blank
  | xidContinue | xidStart
  deriving DecidableEq, Repr

namespace BinaryProperty

def names : List (BinaryProperty × List String) :=
  [(asciiHexDigit, ["ahex", "asciihexdigit"]), (alphabetic, ["alpha", "alphabetic"]),
   (bidiControl, ["bidic", "bidicontrol"]), (bidiMirrored, ["bidim", "bidimirrored"]),
   (caseIgnorable, ["ci", "caseignorable"]), (cased, ["cased"]),
   (changesWhenCasefolded, ["cwcf", "changeswhencasefolded"]),
   (changesWhenCasemapped, ["cwcm", "changeswhencasemapped"]),
   (changesWhenLowercased, ["cwl", "changeswhenlowercased"]),
   (changesWhenTitlecased, ["cwt", "changeswhentitlecased"]),
   (changesWhenUppercased, ["cwu", "changeswhenuppercased"]),
   (dash, ["dash"]), (defaultIgnorable, ["di", "defaultignorablecodepoint"]),
   (deprecated, ["dep", "deprecated"]), (diacritic, ["dia", "diacritic"]),
   (emoji, ["emoji"]), (emojiComponent, ["ecomp", "emojicomponent"]),
   (emojiModifier, ["emod", "emojimodifier"]), (emojiModifierBase, ["ebase", "emojimodifierbase"]),
   (emojiPresentation, ["epres", "emojipresentation"]),
   (pictographic, ["extpict", "extendedpictographic"]), (extender, ["ext", "extender"]),
   (graphemeBase, ["grbase", "graphemebase"]), (graphemeExtend, ["grext", "graphemeextend"]),
   (graphemeLink, ["grlink", "graphemelink"]), (hexDigit, ["hex", "hexdigit"]),
   (hyphen, ["hyphen"]), (binaryDescription, ["idsb", "idsbinaryoperator"]),
   (trinaryDescription, ["idst", "idstrinaryoperator"]),
   (unaryDescription, ["idsu", "idsunaryoperator"]), (mathContinue, ["idcompatmathcontinue"]),
   (mathStart, ["idcompatmathstart"]), (idContinue, ["idc", "idcontinue"]),
   (idStart, ["ids", "idstart"]), (ideographic, ["ideo", "ideographic"]),
   (joinControl, ["joinc", "joincontrol"]),
   (logicalOrderException, ["loe", "logicalorderexception"]),
   (lowercase, ["lower", "lowercase"]), (math, ["math"]),
   (modifierCombiningMark, ["mcm", "modifiercombiningmark"]),
   (noncharacter, ["nchar", "noncharactercodepoint"]),
   (otherAlphabetic, ["oalpha", "otheralphabetic"]),
   (otherIgnorable, ["odi", "otherdefaultignorablecodepoint"]),
   (otherGraphemeExtend, ["ogrext", "othergraphemeextend"]),
   (otherIdContinue, ["oidc", "otheridcontinue"]), (otherIdStart, ["oids", "otheridstart"]),
   (otherLowercase, ["olower", "otherlowercase"]), (otherMath, ["omath", "othermath"]),
   (otherUppercase, ["oupper", "otheruppercase"]), (patternSyntax, ["patsyn", "patternsyntax"]),
   (patternBlank, ["patws", "patternwhitespace"]),
   (prependedMark, ["pcm", "prependedconcatenationmark"]),
   (quotationMark, ["qmark", "quotationmark"]), (radical, ["radical"]),
   (regionalIndicator, ["ri", "regionalindicator"]),
   (sentenceTerminal, ["sterm", "sentenceterminal"]), (softDotted, ["sd", "softdotted"]),
   (termination, ["term", "terminalpunctuation"]),
   (unifiedIdeograph, ["uideo", "unifiedideograph"]), (uppercase, ["upper", "uppercase"]),
   (variationSelector, ["vs", "variationselector"]), (blank, ["space", "wspace", "whitespace"]),
   (xidContinue, ["xidc", "xidcontinue"]), (xidStart, ["xids", "xidstart"])]

def ofName? (name : String) : Option BinaryProperty :=
  (names.find? fun (_, names) => names.contains name).map (·.1)

end BinaryProperty

def tableSet (lines : List String) : CharSet := CharSet.ofRanges (readRanges lines)

def asciiHexSet : CharSet := [(0x30, 0x39), (0x41, 0x46), (0x61, 0x66)]

def lowercaseSet : CharSet :=
  CharSet.union (categorySet (· = .lowercaseLetter)) (tableSet otherLowercaseRuns)

def uppercaseSet : CharSet :=
  CharSet.union (categorySet (· = .uppercaseLetter)) (tableSet otherUppercaseRuns)

def casedSet : CharSet :=
  CharSet.union (CharSet.union lowercaseSet uppercaseSet) (categorySet (· = .titlecaseLetter))

def caseIgnorableSet : CharSet :=
  CharSet.union (CharSet.ofRanges midWord) <|
    categorySet fun kind =>
      [.nonspacingMark, .enclosingMark, .format, .modifierLetter, .modifierSymbol].contains kind

def lowercasedSet : CharSet :=
  CharSet.inter knownSet <| CharSet.union [(0x130, 0x130)] <|
    CharSet.ofRanges (lowercaseTable.flatMap fun run => run.entries.map fun (code, _) => (code, code))

def uppercasedSet : CharSet :=
  CharSet.union (CharSet.diff foldedSet lowercasedSet) (tableSet longUppercaseRuns)

/-- Characters with a titlecase form: those with an uppercase form, but for the titlecase letters
themselves and the letters of scripts without titlecase. -/
def titlecasedSet : CharSet :=
  CharSet.union
    (CharSet.diff (CharSet.diff uppercasedSet (categorySet (· = .titlecaseLetter)))
      (readRanges ["10D0:10FA 10FD:10FF"]))
    (readRanges ["1C4 1C7 1CA 1F1"])

def casefoldedSet : CharSet :=
  CharSet.diff (CharSet.union lowercasedSet (tableSet foldedOnlyRuns)) [(0x13A0, 0x13F5)]

def halfwidthMarks : CharSet := [(0xFF9E, 0xFF9F)]

def otherGraphemeExtendSet : CharSet :=
  CharSet.union (CharSet.inter knownSet (CharSet.ofRanges otherExtenders)) halfwidthMarks

def graphemeExtendSet : CharSet :=
  CharSet.union otherGraphemeExtendSet <|
    categorySet fun kind => kind = .nonspacingMark || kind = .enclosingMark

/-- Characters that stand on their own: all but controls, unassigned ones and extenders. -/
def graphemeBaseSet : CharSet :=
  CharSet.diff
    (categorySet fun kind =>
      !(kind.isOther || kind = .lineSeparator || kind = .paragraphSeparator))
    graphemeExtendSet

def ignorableSet : CharSet :=
  CharSet.diff
    (CharSet.union (CharSet.union (tableSet otherIgnorableRuns) (tableSet variationSelectorRuns))
      (categorySet (· = .format)))
    (CharSet.union (tableSet prependedMarkRuns) [(0xFFF9, 0xFFFB), (0x13430, 0x1343F)])

def idStartSet : CharSet :=
  CharSet.diff
    (CharSet.union (tableSet otherIdStartRuns)
      (categorySet fun kind => kind.isLetter || kind = .letterNumber))
    (CharSet.union (tableSet patternSyntaxRuns) (tableSet patternBlankRuns))

def idContinueSet : CharSet :=
  CharSet.union (CharSet.union idStartSet (tableSet otherIdContinueRuns)) <|
    categorySet fun kind =>
      [.nonspacingMark, .spacingMark, .decimalNumber, .connectorPunctuation].contains kind

def emojiModifierSet : CharSet := [(0x1F3FB, 0x1F3FF)]

def regionalIndicatorSet : CharSet := [(0x1F1E6, 0x1F1FF)]

namespace BinaryProperty

def chars : BinaryProperty → CharSet
  | asciiHexDigit => asciiHexSet
  | alphabetic => alphabeticSet
  | bidiControl => tableSet bidiControlRuns
  | bidiMirrored => tableSet bidiMirroredRuns
  | caseIgnorable => caseIgnorableSet
  | cased => casedSet
  | changesWhenCasefolded => casefoldedSet
  | changesWhenCasemapped =>
    CharSet.union (CharSet.union lowercasedSet uppercasedSet) titlecasedSet
  | changesWhenLowercased => lowercasedSet
  | changesWhenTitlecased => titlecasedSet
  | changesWhenUppercased => uppercasedSet
  | dash => tableSet dashRuns
  | defaultIgnorable => ignorableSet
  | deprecated => tableSet deprecatedRuns
  | diacritic => tableSet diacriticRuns
  | emoji => tableSet emojiRuns
  | emojiComponent => tableSet emojiComponentRuns
  | emojiModifier => emojiModifierSet
  | emojiModifierBase => tableSet emojiModifierBaseRuns
  | emojiPresentation => tableSet emojiPresentationRuns
  | pictographic => tableSet pictographicRuns
  | extender => tableSet extenderRuns
  | graphemeBase => graphemeBaseSet
  | graphemeExtend => graphemeExtendSet
  | graphemeLink => tableSet graphemeLinkRuns
  | hexDigit => CharSet.union asciiHexSet [(0xFF10, 0xFF19), (0xFF21, 0xFF26), (0xFF41, 0xFF46)]
  | hyphen => tableSet hyphenRuns
  | binaryDescription => readRanges ["2FF0:2FF1 2FF4:2FFD 31EF"]
  | trinaryDescription => [(0x2FF2, 0x2FF3)]
  | unaryDescription => [(0x2FFE, 0x2FFF)]
  | mathContinue => tableSet mathContinueRuns
  | mathStart => tableSet mathStartRuns
  | idContinue => idContinueSet
  | idStart => idStartSet
  | ideographic => tableSet ideographicRuns
  | joinControl => joinerSet
  | logicalOrderException => tableSet logicalOrderExceptionRuns
  | lowercase => lowercaseSet
  | math => CharSet.union (categorySet (· = .mathSymbol)) (tableSet otherMathRuns)
  | modifierCombiningMark => tableSet modifierCombiningMarkRuns
  | noncharacter => tableSet noncharacterRuns
  | otherAlphabetic => otherAlphabeticSet
  | otherIgnorable => tableSet otherIgnorableRuns
  | otherGraphemeExtend => otherGraphemeExtendSet
  | otherIdContinue => tableSet otherIdContinueRuns
  | otherIdStart => tableSet otherIdStartRuns
  | otherLowercase => tableSet otherLowercaseRuns
  | otherMath => tableSet otherMathRuns
  | otherUppercase => tableSet otherUppercaseRuns
  | patternSyntax => tableSet patternSyntaxRuns
  | patternBlank => tableSet patternBlankRuns
  | prependedMark => tableSet prependedMarkRuns
  | quotationMark => tableSet quotationMarkRuns
  | radical => tableSet radicalRuns
  | regionalIndicator => regionalIndicatorSet
  | sentenceTerminal => tableSet sentenceTerminalRuns
  | softDotted => tableSet softDottedRuns
  | termination => CharSet.union (tableSet sentenceTerminalRuns) (tableSet terminationRuns)
  | unifiedIdeograph => tableSet unifiedIdeographRuns
  | uppercase => uppercaseSet
  | variationSelector => tableSet variationSelectorRuns
  | blank => blankSet
  | xidContinue => CharSet.diff idContinueSet (tableSet compositeContinueRuns)
  | xidStart => CharSet.diff idStartSet (tableSet compositeStartRuns)

end BinaryProperty
end FluentAssert.Text
