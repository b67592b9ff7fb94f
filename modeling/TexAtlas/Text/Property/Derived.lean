/-
Properties of Unicode that follow from the categories, from case folding and from the
properties that are listed character by character.
-/

import TexAtlas.Text.Blank
import TexAtlas.Text.Property.Category
import TexAtlas.Text.Property.Letter
import TexAtlas.Text.Property.Listed

namespace TexAtlas.Text.CharacterSet

/-- The characters of any category. -/
def assigned : CharacterSet :=
  anyOf (categories.map NamedSet.members)

def letters : CharacterSet :=
  anyOf [listed uppercaseLetterRanges, listed lowercaseLetterRanges,
    listed titlecaseLetterRanges, listed modifierLetterRanges, listed otherLetterRanges]

/-- The alphabetic characters among the assigned ones. -/
def alphabetic : CharacterSet :=
  shared (listed ((0x41, 0x5a) :: (0x61, 0x7a) :: alphabeticRanges)) assigned

/-- The alphabetic characters that are neither letters nor numerals like letters. -/
def otherAlphabetic : CharacterSet :=
  without alphabetic (joined letters (listed letterNumberRanges))

/-! ### Case -/

def lowercase : CharacterSet :=
  joined (listed lowercaseLetterRanges) (listed otherLowercaseRanges)

def uppercase : CharacterSet :=
  joined (listed uppercaseLetterRanges) (listed otherUppercaseRanges)

def cased : CharacterSet :=
  anyOf [lowercase, uppercase, listed titlecaseLetterRanges]

/-- The characters without influence on the case of their neighbours. -/
def caseIgnorable : CharacterSet :=
  anyOf [listed nonspacingMarkRanges, listed enclosingMarkRanges, listed formatRanges,
    listed modifierLetterRanges, listed modifierSymbolRanges, listed insideWordRanges,
    listed insideWordOrNumberRanges, listed [(0x27, 0x27)]]

/-- The characters that fold to another one. -/
def folding : CharacterSet :=
  listed (Intervals.foldingPairs.map (fun pair => (pair.1, pair.1)))

/-- The characters to which another one folds. -/
def folded : CharacterSet :=
  listed (Intervals.foldingPairs.map (fun pair => (pair.2, pair.2)))

/-- The capitals to which the small letters of their script fold. -/
def foldedCapitals : CharacterSet :=
  listed [(0x13a0, 0x13f5)]

/-- Small letters whose capitals are kept for whole words. -/
def wholeWordSmall : CharacterSet :=
  listed [(0x10d0, 0x10fa), (0x10fd, 0x10ff)]

def changesWhenLowercased : CharacterSet :=
  anyOf [without folding lowercase, listed [(0x130, 0x130)], foldedCapitals]

/-- The small letters that have one capital or several, also where these are spelled out
by more than one character. -/
def withCapital : CharacterSet :=
  anyOf [without folded foldedCapitals, shared folding lowercase, listed [(0x131, 0x131)],
    listed spelledOutCapitalRanges]

def changesWhenUppercased : CharacterSet :=
  joined withCapital (listed titlecaseLetterRanges)

/-- At the beginning of a word, two letters in one also change when both are capitals. -/
def changesWhenTitlecased : CharacterSet :=
  joined (without withCapital (joined wholeWordSmall (listed titlecaseLetterRanges)))
    (listed [(0x1c4, 0x1c4), (0x1c7, 0x1c7), (0x1ca, 0x1ca), (0x1f1, 0x1f1)])

def changesWhenCasemapped : CharacterSet :=
  anyOf [changesWhenLowercased, changesWhenUppercased, changesWhenTitlecased]

/-- The characters that full case folding changes. Three of them are only other spellings
of what they fold to. -/
def changesWhenCasefolded : CharacterSet :=
  joined (without folding (listed [(0x1fbe, 0x1fbe), (0x1fd3, 0x1fd3), (0x1fe3, 0x1fe3)]))
    (listed spelledOutFoldingRanges)

/-! ### Identifiers -/

/-- The characters of the syntax of patterns, which no identifier holds. -/
def patternCharacters : CharacterSet :=
  joined (listed patternSyntaxRanges) (listed patternBlankRanges)

def idStart : CharacterSet :=
  without (anyOf [letters, listed letterNumberRanges, listed otherIdStartRanges])
    patternCharacters

def idContinue : CharacterSet :=
  without
    (anyOf [idStart, listed nonspacingMarkRanges, listed spacingMarkRanges,
      listed digitRanges, listed connectorPunctuationRanges, listed otherIdContinueRanges])
    patternCharacters

/-- The beginnings of identifiers that remain so in every normal form. -/
def xidStart : CharacterSet :=
  without idStart (joined (listed decomposedIdRanges) (listed decomposedIdStartRanges))

def xidContinue : CharacterSet :=
  without idContinue (listed decomposedIdRanges)

/-! ### Signs and marks -/

def dash : CharacterSet :=
  joined (listed dashPunctuationRanges) (listed dashSignRanges)

def math : CharacterSet :=
  joined (listed mathSymbolRanges) (listed otherMathRanges)

def defaultIgnorable : CharacterSet :=
  without
    (anyOf [listed otherDefaultIgnorableRanges, listed formatRanges,
      listed variationSelectorRanges])
    (anyOf [listed blankRanges, listed [(0xfff9, 0xfffb), (0x13430, 0x13440)],
      listed prependedMarkRanges])

/-- The characters that continue the one before. -/
def graphemeExtend : CharacterSet :=
  anyOf [listed enclosingMarkRanges, listed nonspacingMarkRanges,
    listed otherGraphemeExtendRanges]

/-- The characters that stand on their own. -/
def graphemeBase : CharacterSet :=
  without assigned
    (anyOf [listed controlRanges, listed formatRanges, listed privateUseRanges,
      listed lineSeparatorRanges, listed paragraphSeparatorRanges, graphemeExtend])

/-- The properties that a character has or has not, by their long and short names. -/
def properties : List NamedSet :=
  [
    { names := ["asciihexdigit", "ahex"]
      members := listed [(0x30, 0x39), (0x41, 0x46), (0x61, 0x66)] },
    { names := ["alphabetic", "alpha"], members := alphabetic },
    { names := ["bidicontrol", "bidic"], members := listed bidiControlRanges },
    { names := ["bidimirrored", "bidim"], members := listed bidiMirroredRanges },
    { names := ["caseignorable", "ci"], members := caseIgnorable },
    { names := ["cased"], members := cased },
    { names := ["changeswhencasefolded", "cwcf"], members := changesWhenCasefolded },
    { names := ["changeswhencasemapped", "cwcm"], members := changesWhenCasemapped },
    { names := ["changeswhenlowercased", "cwl"], members := changesWhenLowercased },
    { names := ["changeswhentitlecased", "cwt"], members := changesWhenTitlecased },
    { names := ["changeswhenuppercased", "cwu"], members := changesWhenUppercased },
    { names := ["dash"], members := dash },
    { names := ["defaultignorablecodepoint", "di"], members := defaultIgnorable },
    { names := ["deprecated", "dep"], members := listed deprecatedRanges },
    { names := ["diacritic", "dia"], members := listed diacriticRanges },
    { names := ["emoji"], members := listed emojiRanges },
    { names := ["emojicomponent", "ecomp"], members := listed emojiComponentRanges },
    { names := ["emojimodifier", "emod"], members := listed emojiModifierRanges },
    { names := ["emojimodifierbase", "ebase"], members := listed emojiModifierBaseRanges },
    { names := ["emojipresentation", "epres"], members := listed emojiPresentationRanges },
    { names := ["extendedpictographic", "extpict"]
      members := listed extendedPictographicRanges },
    { names := ["extender", "ext"], members := listed extenderRanges },
    { names := ["graphemebase", "grbase"], members := graphemeBase },
    { names := ["graphemeextend", "grext"], members := graphemeExtend },
    { names := ["graphemelink", "grlink"], members := listed graphemeLinkRanges },
    { names := ["hexdigit", "hex"]
      members := listed [(0x30, 0x39), (0x41, 0x46), (0x61, 0x66), (0xff10, 0xff19),
        (0xff21, 0xff26), (0xff41, 0xff46)] },
    { names := ["hyphen"], members := listed hyphenRanges },
    { names := ["idcompatmathcontinue"]
      members := joined (listed compatMathStartRanges) (listed compatMathContinueRanges) },
    { names := ["idcompatmathstart"], members := listed compatMathStartRanges },
    { names := ["idcontinue", "idc"], members := idContinue },
    { names := ["ideographic", "ideo"], members := listed ideographicRanges },
    { names := ["idstart", "ids"], members := idStart },
    { names := ["idsbinaryoperator", "idsb"], members := listed binaryDescriptionRanges },
    { names := ["idstrinaryoperator", "idst"], members := listed ternaryDescriptionRanges },
    { names := ["idsunaryoperator", "idsu"], members := listed unaryDescriptionRanges },
    { names := ["joincontrol", "joinc"], members := listed joinControlRanges },
    { names := ["logicalorderexception", "loe"]
      members := listed logicalOrderExceptionRanges },
    { names := ["lowercase", "lower"], members := lowercase },
    { names := ["math"], members := math },
    { names := ["modifiercombiningmark", "mcm"]
      members := listed modifierCombiningMarkRanges },
    { names := ["noncharactercodepoint", "nchar"], members := listed noncharacterRanges },
    { names := ["otheralphabetic", "oalpha"], members := otherAlphabetic },
    { names := ["otherdefaultignorablecodepoint", "odi"]
      members := listed otherDefaultIgnorableRanges },
    { names := ["othergraphemeextend", "ogrext"]
      members := listed otherGraphemeExtendRanges },
    { names := ["otheridcontinue", "oidc"], members := listed otherIdContinueRanges },
    { names := ["otheridstart", "oids"], members := listed otherIdStartRanges },
    { names := ["otherlowercase", "olower"], members := listed otherLowercaseRanges },
    { names := ["othermath", "omath"], members := listed otherMathRanges },
    { names := ["otheruppercase", "oupper"], members := listed otherUppercaseRanges },
    { names := ["patternsyntax", "patsyn"], members := listed patternSyntaxRanges },
    { names := ["patternwhitespace", "patws"], members := listed patternBlankRanges },
    { names := ["prependedconcatenationmark", "pcm"], members := listed prependedMarkRanges },
    { names := ["quotationmark", "qmark"], members := listed quotationMarkRanges },
    { names := ["radical"], members := listed radicalRanges },
    { names := ["regionalindicator", "ri"], members := listed regionalIndicatorRanges },
    { names := ["sentenceterminal", "sterm"], members := listed sentenceTerminalRanges },
    { names := ["softdotted", "sd"], members := listed softDottedRanges },
    { names := ["terminalpunctuation", "term"], members := listed terminalPunctuationRanges },
    { names := ["unifiedideograph", "uideo"], members := listed unifiedIdeographRanges },
    { names := ["uppercase", "upper"], members := uppercase },
    { names := ["variationselector", "vs"], members := listed variationSelectorRanges },
    { names := ["whitespace", "wspace", "space"], members := listed blankRanges },
    { names := ["xidcontinue", "xidc"], members := xidContinue },
    { names := ["xidstart", "xids"], members := xidStart }
  ]

end TexAtlas.Text.CharacterSet
