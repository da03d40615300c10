import Peg.Text.CodeRange

/-!
# Data for text boundaries

Characters that play a part of their own where texts are cut into grapheme clusters, words and
sentences, and that do not follow from other properties.
-/

namespace Peg.Regex

open Peg.Text

/-- Characters that belong to the grapheme cluster behind them. -/
def prependRanges : List CodeRange :=
  [⟨0x600, 0x605⟩, ⟨0x6dd, 0x6dd⟩, ⟨0x70f, 0x70f⟩, ⟨0x890, 0x891⟩, ⟨0x8e2, 0x8e2⟩,
    ⟨0xd4e, 0xd4e⟩, ⟨0x110bd, 0x110bd⟩, ⟨0x110cd, 0x110cd⟩, ⟨0x111c2, 0x111c3⟩,
    ⟨0x113d1, 0x113d1⟩, ⟨0x1193f, 0x1193f⟩, ⟨0x11941, 0x11941⟩, ⟨0x11a3a, 0x11a3a⟩,
    ⟨0x11a84, 0x11a89⟩, ⟨0x11d46, 0x11d46⟩, ⟨0x11f02, 0x11f02⟩]

/-- Hangul letters that start a syllable. -/
def leadingJamoRanges : List CodeRange :=
  [⟨0x1100, 0x115f⟩, ⟨0xa960, 0xa97c⟩]

/-- Hangul letters inside a syllable. -/
def vowelJamoRanges : List CodeRange :=
  [⟨0x1160, 0x11a7⟩, ⟨0xd7b0, 0xd7c6⟩, ⟨0x16d63, 0x16d63⟩, ⟨0x16d67, 0x16d6a⟩]

/-- Hangul letters that end a syllable. -/
def trailingJamoRanges : List CodeRange :=
  [⟨0x11a8, 0x11ff⟩, ⟨0xd7cb, 0xd7fb⟩]

/-- Spacing marks that do not belong to the grapheme cluster before them. -/
def detachedMarkRanges : List CodeRange :=
  [⟨0x102b, 0x102c⟩, ⟨0x1038, 0x1038⟩, ⟨0x1062, 0x1064⟩, ⟨0x1067, 0x106d⟩, ⟨0x1083, 0x1083⟩,
    ⟨0x1087, 0x108c⟩, ⟨0x108f, 0x108f⟩, ⟨0x109a, 0x109c⟩, ⟨0x1a61, 0x1a61⟩, ⟨0x1a63, 0x1a64⟩,
    ⟨0xaa7b, 0xaa7b⟩, ⟨0xaa7d, 0xaa7d⟩, ⟨0x11720, 0x11721⟩]

/-- Letters that belong to the grapheme cluster before them as spacing marks do. -/
def attachedVowelRanges : List CodeRange :=
  [⟨0xe33, 0xe33⟩, ⟨0xeb3, 0xeb3⟩]

/-- Characters other than decimal digits that are part of numbers. -/
def numberSignRanges : List CodeRange :=
  [⟨0x600, 0x605⟩, ⟨0x66b, 0x66c⟩, ⟨0x6dd, 0x6dd⟩, ⟨0x890, 0x891⟩, ⟨0x8e2, 0x8e2⟩,
    ⟨0x19da, 0x19da⟩, ⟨0x110bd, 0x110bd⟩, ⟨0x110cd, 0x110cd⟩]

/-- Georgian letters that do not start or continue a sentence by their case. -/
def unicameralGeorgianRanges : List CodeRange :=
  [⟨0x10d0, 0x10fa⟩, ⟨0x10fd, 0x10ff⟩, ⟨0x1c90, 0x1cba⟩, ⟨0x1cbd, 0x1cbf⟩]

/-- Full stops, which may also stand inside a sentence. -/
def ambiguousTerminatorRanges : List CodeRange :=
  [⟨0x2e, 0x2e⟩, ⟨0x2024, 0x2024⟩, ⟨0xfe52, 0xfe52⟩, ⟨0xff0e, 0xff0e⟩]

/-- Punctuation behind which a sentence goes on. -/
def sentenceContinueRanges : List CodeRange :=
  [⟨0x2c, 0x2d⟩, ⟨0x3a, 0x3b⟩, ⟨0x37e, 0x37e⟩, ⟨0x55d, 0x55d⟩, ⟨0x60c, 0x60d⟩, ⟨0x7f8, 0x7f8⟩,
    ⟨0x1802, 0x1802⟩, ⟨0x1808, 0x1808⟩, ⟨0x2013, 0x2014⟩, ⟨0x3001, 0x3001⟩, ⟨0xfe10, 0xfe11⟩,
    ⟨0xfe13, 0xfe14⟩, ⟨0xfe31, 0xfe32⟩, ⟨0xfe50, 0xfe51⟩, ⟨0xfe54, 0xfe55⟩, ⟨0xfe58, 0xfe58⟩,
    ⟨0xfe63, 0xfe63⟩, ⟨0xff0c, 0xff0d⟩, ⟨0xff1a, 0xff1b⟩, ⟨0xff64, 0xff64⟩]

/-- Characters that separate paragraphs. -/
def sentenceSeparatorRanges : List CodeRange :=
  [⟨0x85, 0x85⟩, ⟨0x2028, 0x2029⟩]

/-- Quotation marks that open or close. -/
def quotationRanges : List CodeRange :=
  [⟨0x22, 0x22⟩, ⟨0x27, 0x27⟩, ⟨0xab, 0xab⟩, ⟨0xbb, 0xbb⟩, ⟨0x2018, 0x2019⟩, ⟨0x201b, 0x201d⟩,
    ⟨0x201f, 0x201f⟩, ⟨0x2039, 0x203a⟩, ⟨0x275b, 0x2760⟩, ⟨0x2e00, 0x2e0d⟩, ⟨0x2e1c, 0x2e1d⟩,
    ⟨0x2e20, 0x2e21⟩, ⟨0x1f676, 0x1f678⟩]

/-- Signs that stand inside words in Katakana. -/
def katakanaLikeRanges : List CodeRange :=
  [⟨0x3031, 0x3035⟩, ⟨0x309b, 0x309c⟩, ⟨0x30a0, 0x30a0⟩, ⟨0x30fc, 0x30fc⟩, ⟨0xff70, 0xff70⟩]

/-- Signs other than letters that stand inside words. -/
def letterLikeRanges : List CodeRange :=
  [⟨0x2c2, 0x2c5⟩, ⟨0x2d2, 0x2d7⟩, ⟨0x2de, 0x2df⟩, ⟨0x2e5, 0x2eb⟩, ⟨0x2ed, 0x2ed⟩,
    ⟨0x2ef, 0x2ff⟩, ⟨0x55a, 0x55c⟩, ⟨0x55e, 0x55e⟩, ⟨0x58a, 0x58a⟩, ⟨0x5f3, 0x5f3⟩,
    ⟨0x70f, 0x70f⟩, ⟨0xa708, 0xa716⟩, ⟨0xa720, 0xa721⟩, ⟨0xa789, 0xa78a⟩, ⟨0xab5b, 0xab5b⟩]

/-- Letters of scripts in which words follow each other without a sign. -/
def complexContextRanges : List CodeRange :=
  [⟨0xe01, 0xe30⟩, ⟨0xe32, 0xe33⟩, ⟨0xe40, 0xe46⟩, ⟨0xe81, 0xe82⟩, ⟨0xe84, 0xe84⟩,
    ⟨0xe86, 0xe8a⟩, ⟨0xe8c, 0xea3⟩, ⟨0xea5, 0xea5⟩, ⟨0xea7, 0xeb0⟩, ⟨0xeb2, 0xeb3⟩,
    ⟨0xebd, 0xebd⟩, ⟨0xec0, 0xec4⟩, ⟨0xec6, 0xec6⟩, ⟨0xedc, 0xedf⟩, ⟨0x1000, 0x102a⟩,
    ⟨0x103f, 0x103f⟩, ⟨0x1050, 0x1055⟩, ⟨0x105a, 0x105d⟩, ⟨0x1061, 0x1061⟩, ⟨0x1065, 0x1066⟩,
    ⟨0x106e, 0x1070⟩, ⟨0x1075, 0x1081⟩, ⟨0x108e, 0x108e⟩, ⟨0x1780, 0x17b3⟩, ⟨0x17d7, 0x17d7⟩,
    ⟨0x17dc, 0x17dc⟩, ⟨0x1950, 0x196d⟩, ⟨0x1970, 0x1974⟩, ⟨0x1980, 0x19ab⟩, ⟨0x19b0, 0x19c9⟩,
    ⟨0x1a20, 0x1a54⟩, ⟨0x1aa7, 0x1aa7⟩, ⟨0xa9e0, 0xa9e4⟩, ⟨0xa9e6, 0xa9ef⟩, ⟨0xa9fa, 0xa9fe⟩,
    ⟨0xaa60, 0xaa76⟩, ⟨0xaa7a, 0xaa7a⟩, ⟨0xaa7e, 0xaaaf⟩, ⟨0xaab1, 0xaab1⟩, ⟨0xaab5, 0xaab6⟩,
    ⟨0xaab9, 0xaabd⟩, ⟨0xaac0, 0xaac0⟩, ⟨0xaac2, 0xaac2⟩, ⟨0xaadb, 0xaadd⟩, ⟨0x11700, 0x1171a⟩,
    ⟨0x11740, 0x11746⟩]

/-- Punctuation that stands between letters. -/
def midLetterRanges : List CodeRange :=
  [⟨0x3a, 0x3a⟩, ⟨0xb7, 0xb7⟩, ⟨0x387, 0x387⟩, ⟨0x55f, 0x55f⟩, ⟨0x5f4, 0x5f4⟩, ⟨0x2027, 0x2027⟩,
    ⟨0xfe13, 0xfe13⟩, ⟨0xfe55, 0xfe55⟩, ⟨0xff1a, 0xff1a⟩]

/-- Punctuation that stands between digits. -/
def midNumberRanges : List CodeRange :=
  [⟨0x2c, 0x2c⟩, ⟨0x3b, 0x3b⟩, ⟨0x37e, 0x37e⟩, ⟨0x589, 0x589⟩, ⟨0x60c, 0x60d⟩, ⟨0x66c, 0x66c⟩,
    ⟨0x7f8, 0x7f8⟩, ⟨0x2044, 0x2044⟩, ⟨0xfe50, 0xfe50⟩, ⟨0xfe54, 0xfe54⟩, ⟨0xff0c, 0xff0c⟩,
    ⟨0xff1b, 0xff1b⟩]

/-- Punctuation that stands between letters and between digits. -/
def midNumberOrLetterRanges : List CodeRange :=
  [⟨0x2e, 0x2e⟩, ⟨0x2018, 0x2019⟩, ⟨0x2024, 0x2024⟩, ⟨0xfe52, 0xfe52⟩, ⟨0xff07, 0xff07⟩,
    ⟨0xff0e, 0xff0e⟩]

/-- Characters that separate lines. -/
def newlineRanges : List CodeRange :=
  [⟨0xb, 0xc⟩, ⟨0x85, 0x85⟩, ⟨0x2028, 0x2029⟩]

end Peg.Regex
