import Peg.Regex.BinaryProperty
import Peg.Regex.ScriptTable

/-!
# Properties for text boundaries

The parts that characters play where texts are cut into grapheme clusters, words and sentences. The
characters without a part of their own have no name here.
-/

namespace Peg.Regex.Property

open Peg.Text

/-- The members of a script, by its long name. -/
def ofScript (name : String) : CharSet :=
  .ranges ((lookupNamed scripts name).getD [])

/-- What extends a grapheme cluster. -/
def graphemeBreakExtend : CharSet :=
  .union graphemeExtend (.ranges emojiModifierRanges)

/-- Controls that stand between grapheme clusters. -/
def graphemeBreakControl : CharSet :=
  .difference
    (.union (ofCategories [Category.lineSeparator, Category.paragraphSeparator, Category.control,
        Category.format])
      (.intersection (.strides Category.unassigned) defaultIgnorable))
    (.unionAll [.single '\r', .single '\n', joiner, graphemeExtend,
      .ranges prependedConcatenationMarkRanges])

/-- Marks with a width that belong to the character before them. -/
def graphemeBreakSpacingMark : CharSet :=
  .difference (.union (.strides Category.spacingMark) (.ranges attachedVowelRanges))
    (.union graphemeBreakExtend (.ranges detachedMarkRanges))

/-- Hangul syllables that end in a vowel. Every twenty-eighth syllable is one. -/
def openSyllables : CharSet :=
  .strides [⟨0xac00, 0xd788, 28⟩]

/-- The parts that characters play in grapheme clusters, with their short and long names. -/
def graphemeBreaks : List (String × String × CharSet) :=
  [("cn", "control", graphemeBreakControl),
    ("cr", "cr", .single '\r'),
    ("ex", "extend", graphemeBreakExtend),
    ("l", "l", .ranges leadingJamoRanges),
    ("lf", "lf", .single '\n'),
    ("lv", "lv", openSyllables),
    ("lvt", "lvt", .difference (.ranges [⟨0xac00, 0xd7a3⟩]) openSyllables),
    ("pp", "prepend", .ranges prependRanges),
    ("ri", "regionalindicator", .ranges regionalIndicatorRanges),
    ("sm", "spacingmark", graphemeBreakSpacingMark),
    ("t", "t", .ranges trailingJamoRanges),
    ("v", "v", .ranges vowelJamoRanges),
    ("zwj", "zwj", joiner)]

/-- What extends the character before it in a sentence. -/
def sentenceBreakExtend : CharSet :=
  .unionAll [graphemeExtend, .strides Category.spacingMark, joiner]

/-- Digits and what is part of numbers. -/
def sentenceBreakNumeric : CharSet :=
  .union (.strides Category.decimalNumber) (.ranges numberSignRanges)

/-- Letters that continue a sentence behind a full stop. -/
def sentenceBreakLower : CharSet :=
  .difference lowercase (.union graphemeExtend (.ranges unicameralGeorgianRanges))

/-- Letters that may start a sentence. -/
def sentenceBreakUpper : CharSet :=
  .difference (.union (.strides Category.titlecaseLetter) uppercase)
    (.ranges unicameralGeorgianRanges)

/-- Letters without case. A sign of Hebrew is one of them. -/
def sentenceBreakOtherLetter : CharSet :=
  .difference (.union alphabetic (.single '\u05f3'))
    (.unionAll [sentenceBreakLower, sentenceBreakUpper, sentenceBreakExtend])

/-- Punctuation that ends a sentence. -/
def sentenceBreakTerminator : CharSet :=
  .difference (.ranges sentenceTerminalRanges) (.ranges ambiguousTerminatorRanges)

/-- Brackets and quotation marks, which may follow the end of a sentence. -/
def sentenceBreakClose : CharSet :=
  .difference
    (.union (ofCategories [Category.openPunctuation, Category.closePunctuation])
      (.ranges quotationRanges))
    (.union (.ranges ambiguousTerminatorRanges) sentenceBreakTerminator)

/-- The parts that characters play in sentences, with their short and long names. -/
def sentenceBreaks : List (String × String × CharSet) :=
  [("at", "aterm", .ranges ambiguousTerminatorRanges),
    ("cl", "close", sentenceBreakClose),
    ("cr", "cr", .single '\r'),
    ("ex", "extend", sentenceBreakExtend),
    ("fo", "format", .difference (.strides Category.format)
      (.union sentenceBreakExtend sentenceBreakNumeric)),
    ("le", "oletter", sentenceBreakOtherLetter),
    ("lf", "lf", .single '\n'),
    ("lo", "lower", sentenceBreakLower),
    ("nu", "numeric", sentenceBreakNumeric),
    ("sc", "scontinue", .ranges sentenceContinueRanges),
    ("se", "sep", .ranges sentenceSeparatorRanges),
    ("sp", "sp", .difference (.ranges blankRanges)
      (.unionAll [.ranges sentenceSeparatorRanges, .single '\r', .single '\n'])),
    ("st", "sterm", sentenceBreakTerminator),
    ("up", "upper", sentenceBreakUpper)]

/-- What extends the character before it in a word. -/
def wordBreakExtend : CharSet :=
  .unionAll [graphemeExtend, .strides Category.spacingMark, .ranges emojiModifierRanges]

/-- Letters of Hebrew, which may be followed by quotation marks. -/
def wordBreakHebrewLetter : CharSet :=
  .intersection (ofScript "hebrew") (.strides Category.otherLetter)

/-- Signs of Katakana and what stands inside words in it. -/
def wordBreakKatakana : CharSet :=
  .union (ofScript "katakana") (.ranges katakanaLikeRanges)

/-- Letters of scripts in which words are separated. -/
def wordBreakLetter : CharSet :=
  .difference (.union alphabetic (.ranges letterLikeRanges))
    (.unionAll [.ranges ideographicRanges, wordBreakKatakana, wordBreakHebrewLetter,
      wordBreakExtend, ofScript "hiragana", .ranges complexContextRanges])

/-- Digits and what is part of numbers, other than separators. -/
def wordBreakNumeric : CharSet :=
  .difference sentenceBreakNumeric (.ranges midNumberRanges)

/-- Format characters inside words. The space without width stands between words. -/
def wordBreakFormat : CharSet :=
  .difference (.strides Category.format)
    (.unionAll [wordBreakExtend, wordBreakNumeric, wordBreakLetter, joiner, .single '\u200b'])

/-- The parts that characters play in words, with their short and long names. -/
def wordBreaks : List (String × String × CharSet) :=
  [("le", "aletter", wordBreakLetter),
    ("cr", "cr", .single '\r'),
    ("dq", "doublequote", .single '"'),
    ("extend", "extend", wordBreakExtend),
    ("ex", "extendnumlet", .union (.strides Category.connectorPunctuation) (.single '\u202f')),
    ("fo", "format", wordBreakFormat),
    ("hl", "hebrewletter", wordBreakHebrewLetter),
    ("ka", "katakana", wordBreakKatakana),
    ("lf", "lf", .single '\n'),
    ("ml", "midletter", .ranges midLetterRanges),
    ("mn", "midnum", .ranges midNumberRanges),
    ("mb", "midnumlet", .ranges midNumberOrLetterRanges),
    ("nl", "newline", .ranges newlineRanges),
    ("nu", "numeric", wordBreakNumeric),
    ("ri", "regionalindicator", .ranges regionalIndicatorRanges),
    ("sq", "singlequote", apostrophe),
    ("wsegspace", "wsegspace", .difference (.strides Category.spaceSeparator)
      (.ranges [⟨0xa0, 0xa0⟩, ⟨0x2007, 0x2007⟩, ⟨0x202f, 0x202f⟩])),
    ("zwj", "zwj", joiner)]

end Peg.Regex.Property
