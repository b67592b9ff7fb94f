/-
The parts that characters play where a text is cut into what a reader takes for one
character, into words and into sentences.
-/

import TexAtlas.Text.Property.Derived
import TexAtlas.Text.Property.Script

namespace TexAtlas.Text

/-! ### Listed parts -/

/-- Consonants at the beginning of a syllable. -/
def syllableLeadRanges : List (Nat × Nat) :=
  [(0x1100, 0x115f), (0xa960, 0xa97c)]

/-- Vowels inside a syllable. -/
def syllableVowelRanges : List (Nat × Nat) :=
  [(0x1160, 0x11a7), (0xd7b0, 0xd7c6), (0x16d63, 0x16d63), (0x16d67, 0x16d6a)]

/-- Consonants at the end of a syllable. -/
def syllableTailRanges : List (Nat × Nat) :=
  [(0x11a8, 0x11ff), (0xd7cb, 0xd7fb)]

/-- Signs in front of the consonant that they belong to. -/
def prependedSignRanges : List (Nat × Nat) :=
  [
    (0xd4e, 0xd4e), (0x111c2, 0x111c3), (0x113d1, 0x113d1), (0x1193f, 0x1193f),
    (0x11941, 0x11941), (0x11a3a, 0x11a3a), (0x11a84, 0x11a89), (0x11d46, 0x11d46),
    (0x11f02, 0x11f02)
  ]

/-- Spacing marks that stand on their own. -/
def standingMarkRanges : List (Nat × Nat) :=
  [
    (0x102b, 0x102c), (0x1038, 0x1038), (0x1062, 0x1064), (0x1067, 0x106d),
    (0x1083, 0x1083), (0x1087, 0x108c), (0x108f, 0x108f), (0x109a, 0x109c),
    (0x1a61, 0x1a61), (0x1a63, 0x1a64), (0xaa7b, 0xaa7b), (0xaa7d, 0xaa7d),
    (0x11720, 0x11721)
  ]

/-- Letters of scripts that put no space between words. -/
def unspacedLetterRanges : List (Nat × Nat) :=
  [
    (0xe01, 0xe30), (0xe32, 0xe33), (0xe40, 0xe46), (0xe81, 0xe82), (0xe84, 0xe84),
    (0xe86, 0xe8a), (0xe8c, 0xea3), (0xea5, 0xea5), (0xea7, 0xeb0), (0xeb2, 0xeb3),
    (0xebd, 0xebd), (0xec0, 0xec4), (0xec6, 0xec6), (0xedc, 0xedf), (0x1000, 0x102a),
    (0x103f, 0x103f), (0x1050, 0x1055), (0x105a, 0x105d), (0x1061, 0x1061),
    (0x1065, 0x1066), (0x106e, 0x1070), (0x1075, 0x1081), (0x108e, 0x108e),
    (0x1780, 0x17b3), (0x17d7, 0x17d7), (0x17dc, 0x17dc), (0x1950, 0x196d),
    (0x1970, 0x1974), (0x1980, 0x19ab), (0x19b0, 0x19c9), (0x1a20, 0x1a54),
    (0x1aa7, 0x1aa7), (0xa9e0, 0xa9e4), (0xa9e6, 0xa9ef), (0xa9fa, 0xa9fe),
    (0xaa60, 0xaa76), (0xaa7a, 0xaa7a), (0xaa7e, 0xaaaf), (0xaab1, 0xaab1),
    (0xaab5, 0xaab6), (0xaab9, 0xaabd), (0xaac0, 0xaac0), (0xaac2, 0xaac2),
    (0xaadb, 0xaadd), (0x11700, 0x1171a), (0x11740, 0x11746)
  ]

/-- Signs that count as letters of a word. -/
def wordSignRanges : List (Nat × Nat) :=
  [
    (0x2c2, 0x2c5), (0x2d2, 0x2d7), (0x2de, 0x2df), (0x2e5, 0x2eb), (0x2ed, 0x2ed),
    (0x2ef, 0x2ff), (0x55a, 0x55c), (0x55e, 0x55e), (0x58a, 0x58a), (0x5f3, 0x5f3),
    (0xa708, 0xa716), (0xa720, 0xa721), (0xa789, 0xa78a), (0xab5b, 0xab5b)
  ]

/-- Signs that do not end a number between two of its digits. -/
def insideNumberRanges : List (Nat × Nat) :=
  [
    (0x2c, 0x2c), (0x3b, 0x3b), (0x37e, 0x37e), (0x589, 0x589), (0x60c, 0x60d),
    (0x66c, 0x66c), (0x7f8, 0x7f8), (0x2044, 0x2044), (0xfe10, 0xfe10),
    (0xfe14, 0xfe14), (0xfe50, 0xfe50), (0xfe54, 0xfe54), (0xff0c, 0xff0c),
    (0xff1b, 0xff1b)
  ]

/-- Signs that connect words and numbers. -/
def wordConnectorRanges : List (Nat × Nat) :=
  [
    (0x5f, 0x5f), (0x202f, 0x202f), (0x203f, 0x2040), (0x2054, 0x2054),
    (0xfe33, 0xfe34), (0xfe4d, 0xfe4f), (0xff3f, 0xff3f)
  ]

/-- Signs after which a sentence goes on. -/
def sentenceContinueRanges : List (Nat × Nat) :=
  [
    (0x2c, 0x2d), (0x3a, 0x3b), (0x37e, 0x37e), (0x55d, 0x55d), (0x60c, 0x60d),
    (0x7f8, 0x7f8), (0x1802, 0x1802), (0x1808, 0x1808), (0x2013, 0x2014),
    (0x3001, 0x3001), (0xfe10, 0xfe11), (0xfe13, 0xfe14), (0xfe31, 0xfe32),
    (0xfe50, 0xfe51), (0xfe54, 0xfe55), (0xfe58, 0xfe58), (0xfe63, 0xfe63),
    (0xff0c, 0xff0d), (0xff1a, 0xff1b), (0xff64, 0xff64)
  ]

/-- Quotation marks that are no opening or closing punctuation. -/
def quoteSignRanges : List (Nat × Nat) :=
  [
    (0x22, 0x22), (0x27, 0x27), (0x275b, 0x2760), (0x2e00, 0x2e01), (0x2e06, 0x2e08),
    (0x2e0b, 0x2e0b), (0x1f676, 0x1f678)
  ]

namespace CharacterSet

def carriageReturn : CharacterSet :=
  listed [(0xd, 0xd)]

def lineFeed : CharacterSet :=
  listed [(0xa, 0xa)]

def joiner : CharacterSet :=
  listed [(0x200d, 0x200d)]

def spacingMarks : CharacterSet :=
  listed spacingMarkRanges

/-! ### Characters of a reader -/

/-- What continues a character of a reader: marks, and the modifiers of pictures. -/
def characterTail : CharacterSet :=
  joined graphemeExtend (listed emojiModifierRanges)

/-- Characters that always stand apart. -/
def characterBreak : CharacterSet :=
  without
    (anyOf [listed lineSeparatorRanges, listed paragraphSeparatorRanges,
      listed controlRanges, listed formatRanges, without defaultIgnorable assigned])
    (anyOf [carriageReturn, lineFeed, joiner, listed prependedMarkRanges, graphemeExtend])

/-- The spacing marks that belong to the letter before, and two vowels that do. -/
def attachedMarks : CharacterSet :=
  joined (without spacingMarks (joined characterTail (listed standingMarkRanges)))
    (listed [(0xe33, 0xe33), (0xeb3, 0xeb3)])

/-- The syllables of a lead and a vowel: every twenty-eighth of all syllables. -/
def openSyllables : CharacterSet :=
  listed ((List.range 399).map (fun index => (0xac00 + 28 * index, 0xac00 + 28 * index)))

def closedSyllables : CharacterSet :=
  without (listed [(0xac00, 0xd7a3)]) openSyllables

def graphemeClasses : List NamedSet :=
  [
    { names := ["control", "cn"], members := characterBreak },
    { names := ["cr"], members := carriageReturn },
    { names := ["extend", "ex"], members := characterTail },
    { names := ["l"], members := listed syllableLeadRanges },
    { names := ["lf"], members := lineFeed },
    { names := ["lv"], members := openSyllables },
    { names := ["lvt"], members := closedSyllables },
    { names := ["prepend", "pp"]
      members := joined (listed prependedMarkRanges) (listed prependedSignRanges) },
    { names := ["regionalindicator", "ri"], members := listed regionalIndicatorRanges },
    { names := ["spacingmark", "sm"], members := attachedMarks },
    { names := ["t"], members := listed syllableTailRanges },
    { names := ["v"], members := listed syllableVowelRanges },
    { names := ["zwj"], members := joiner }
  ]

/-! ### Words -/

/-- What continues the character before it: marks of any width. -/
def markTail : CharacterSet :=
  joined characterTail spacingMarks

def hebrewLetters : CharacterSet :=
  shared (listed scriptHebrew) (listed otherLetterRanges)

def katakana : CharacterSet :=
  joined (listed scriptKatakana)
    (listed [(0x3031, 0x3035), (0x309b, 0x309c), (0x30a0, 0x30a0), (0x30fc, 0x30fc),
      (0xff70, 0xff70)])

/-- The letters of words that blanks set apart. -/
def wordLetters : CharacterSet :=
  joined
    (without alphabetic
      (anyOf [listed ideographicRanges, katakana, listed scriptHiragana, hebrewLetters,
        listed unspacedLetterRanges, markTail]))
    (listed wordSignRanges)

def wordClasses : List NamedSet :=
  [
    { names := ["aletter", "le"], members := wordLetters },
    { names := ["cr"], members := carriageReturn },
    { names := ["doublequote", "dq"], members := listed [(0x22, 0x22)] },
    { names := ["extend"], members := markTail },
    { names := ["extendnumlet", "ex"], members := listed wordConnectorRanges },
    { names := ["format", "fo"]
      members := without (listed formatRanges)
        (joined graphemeExtend (listed [(0x200b, 0x200b), (0x200d, 0x200d)])) },
    { names := ["hebrewletter", "hl"], members := hebrewLetters },
    { names := ["katakana", "ka"], members := katakana },
    { names := ["lf"], members := lineFeed },
    { names := ["midletter", "ml"], members := listed insideWordRanges },
    { names := ["midnum", "mn"], members := listed insideNumberRanges },
    { names := ["midnumlet", "mb"], members := listed insideWordOrNumberRanges },
    { names := ["newline", "nl"]
      members := listed [(0xb, 0xc), (0x85, 0x85), (0x2028, 0x2029)] },
    { names := ["numeric", "nu"]
      members := joined (listed digitRanges) (listed [(0x66b, 0x66b)]) },
    { names := ["regionalindicator", "ri"], members := listed regionalIndicatorRanges },
    { names := ["singlequote", "sq"], members := listed [(0x27, 0x27)] },
    { names := ["wsegspace"]
      members := without (listed spaceSeparatorRanges)
        (listed [(0xa0, 0xa0), (0x2007, 0x2007), (0x202f, 0x202f)]) },
    { names := ["zwj"], members := joiner }
  ]

/-! ### Sentences -/

/-- Full stops, which need not end a sentence. -/
def fullStops : CharacterSet :=
  listed [(0x2e, 0x2e), (0x2024, 0x2024), (0xfe52, 0xfe52), (0xff0e, 0xff0e)]

def sentenceSeparators : CharacterSet :=
  listed [(0x85, 0x85), (0x2028, 0x2029)]

def sentenceLowercase : CharacterSet :=
  without lowercase (joined graphemeExtend wholeWordSmall)

/-- Capitals, apart from those kept for whole words. -/
def sentenceUppercase : CharacterSet :=
  without (joined uppercase (listed titlecaseLetterRanges))
    (listed [(0x1c90, 0x1cba), (0x1cbd, 0x1cbf)])

def sentenceClasses : List NamedSet :=
  [
    { names := ["aterm", "at"], members := fullStops },
    { names := ["close", "cl"]
      members := anyOf [listed openPunctuationRanges, listed closePunctuationRanges,
        listed initialPunctuationRanges, listed finalPunctuationRanges,
        listed quoteSignRanges] },
    { names := ["cr"], members := carriageReturn },
    { names := ["extend", "ex"], members := anyOf [graphemeExtend, spacingMarks, joiner] },
    { names := ["format", "fo"]
      members := without (listed formatRanges) (joined graphemeExtend joiner) },
    { names := ["lf"], members := lineFeed },
    { names := ["lower", "lo"], members := sentenceLowercase },
    { names := ["numeric", "nu"]
      members := joined (listed digitRanges) (listed [(0x66b, 0x66c)]) },
    { names := ["oletter", "le"]
      members := without (joined alphabetic (listed [(0x5f3, 0x5f3)]))
        (anyOf [sentenceLowercase, sentenceUppercase, markTail]) },
    { names := ["scontinue", "sc"], members := listed sentenceContinueRanges },
    { names := ["sep", "se"], members := sentenceSeparators },
    { names := ["sp"]
      members := without (listed blankRanges)
        (anyOf [sentenceSeparators, carriageReturn, lineFeed]) },
    { names := ["sterm", "st"], members := without (listed sentenceTerminalRanges) fullStops },
    { names := ["upper", "up"], members := sentenceUppercase }
  ]

end CharacterSet

end TexAtlas.Text
