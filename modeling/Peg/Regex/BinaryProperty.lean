import Peg.Regex.BoundaryTable
import Peg.Regex.CategoryTable
import Peg.Regex.CharSet

/-!
# Two-valued properties

The properties that a character has or lacks. Most of them are listed, and the others follow from
general categories and from listed properties.
-/

namespace Peg.Regex

open Peg.Text

namespace Property

/-- The entry of a table that has the given short or long name. -/
def lookupNamed {α : Type} (table : List (String × String × α)) (name : String) : Option α :=
  (table.find? fun entry => entry.1 = name || entry.2.1 = name).map fun entry => entry.2.2

/-- The members of some general categories. -/
def ofCategories (categories : List (List CodeStride)) : CharSet :=
  .unionAll (categories.map .strides)

/-- The apostrophe, which is also a single quotation mark. -/
def apostrophe : CharSet :=
  .ranges [⟨0x27, 0x27⟩]

/-- The character that joins the characters around it. -/
def joiner : CharSet :=
  .ranges [⟨0x200d, 0x200d⟩]

/-- Lower-case letters and what looks like them. -/
def lowercase : CharSet :=
  .union (.strides Category.lowercaseLetter) (.ranges otherLowercaseRanges)

/-- Upper-case letters and what looks like them. -/
def uppercase : CharSet :=
  .union (.strides Category.uppercaseLetter) (.ranges otherUppercaseRanges)

/-- Whatever takes part in letter case. -/
def cased : CharSet :=
  .unionAll [lowercase, uppercase, .strides Category.titlecaseLetter]

/-- Letters and what is used as one. -/
def alphabetic : CharSet :=
  .unionAll [cased, ofCategories [Category.modifierLetter, Category.otherLetter,
    Category.letterNumber], .ranges otherAlphabeticRanges]

/-- Punctuation between letters, and signs that do not affect the case of their neighbours. -/
def caseIgnorable : CharSet :=
  .unionAll [ofCategories [Category.modifierLetter, Category.nonspacingMark, Category.enclosingMark,
      Category.modifierSymbol, Category.format],
    .ranges midLetterRanges, .ranges midNumberOrLetterRanges, apostrophe]

/-- Whatever is changed by one of the mappings of letter case. -/
def changesWhenCasemapped : CharSet :=
  .unionAll [.strides changesWhenLowercasedStrides, .strides changesWhenUppercasedStrides,
    .strides changesWhenTitlecasedStrides]

/-- Mathematical signs. -/
def math : CharSet :=
  .union (.strides Category.mathSymbol) (.ranges otherMathRanges)

/-- Marks that belong to the character before them and have no width. -/
def graphemeExtend : CharSet :=
  .union (ofCategories [Category.nonspacingMark, Category.enclosingMark])
    (.ranges otherGraphemeExtendRanges)

/-- Characters that marks may follow. -/
def graphemeBase : CharSet :=
  .complement (.union graphemeExtend (ofCategories [Category.control, Category.format,
    Category.unassigned, Category.privateUse, Category.lineSeparator, Category.paragraphSeparator]))

/-- Characters that are not shown when they are not supported. The controls for the layout of
hieroglyphs and of annotations are shown. -/
def defaultIgnorable : CharSet :=
  .difference
    (.unionAll [.ranges otherDefaultIgnorableCodePointRanges, .strides Category.format,
      .ranges variationSelectorRanges])
    (.unionAll [.ranges blankRanges, .ranges [⟨0xfff9, 0xfffb⟩, ⟨0x13430, 0x13440⟩],
      .ranges prependedConcatenationMarkRanges])

/-- Characters that are reserved for the notation of patterns. -/
def patternSigns : CharSet :=
  .union (.ranges patternSyntaxRanges) (.ranges patternWhiteSpaceRanges)

/-- Characters that may start an identifier. -/
def idStart : CharSet :=
  .difference
    (.union (ofCategories [Category.uppercaseLetter, Category.lowercaseLetter,
        Category.titlecaseLetter, Category.modifierLetter, Category.otherLetter,
        Category.letterNumber])
      (.ranges otherIdStartRanges))
    patternSigns

/-- Characters that may continue an identifier. -/
def idContinue : CharSet :=
  .difference
    (.unionAll [idStart, ofCategories [Category.nonspacingMark, Category.spacingMark,
        Category.decimalNumber, Category.connectorPunctuation],
      .ranges otherIdContinueRanges])
    patternSigns

/-- The two-valued properties with their short and long names. -/
def binaries : List (String × String × CharSet) :=
  [("ahex", "asciihexdigit", .ranges asciiHexDigitRanges),
    ("alpha", "alphabetic", alphabetic),
    ("bidic", "bidicontrol", .ranges bidiControlRanges),
    ("bidim", "bidimirrored", .ranges bidiMirroredRanges),
    ("ci", "caseignorable", caseIgnorable),
    ("cased", "cased", cased),
    ("cwcf", "changeswhencasefolded", .strides changesWhenCasefoldedStrides),
    ("cwcm", "changeswhencasemapped", changesWhenCasemapped),
    ("cwl", "changeswhenlowercased", .strides changesWhenLowercasedStrides),
    ("cwt", "changeswhentitlecased", .strides changesWhenTitlecasedStrides),
    ("cwu", "changeswhenuppercased", .strides changesWhenUppercasedStrides),
    ("dash", "dash", .ranges dashRanges),
    ("di", "defaultignorablecodepoint", defaultIgnorable),
    ("dep", "deprecated", .ranges deprecatedRanges),
    ("dia", "diacritic", .ranges diacriticRanges),
    ("emoji", "emoji", .ranges emojiRanges),
    ("ecomp", "emojicomponent", .ranges emojiComponentRanges),
    ("emod", "emojimodifier", .ranges emojiModifierRanges),
    ("ebase", "emojimodifierbase", .ranges emojiModifierBaseRanges),
    ("epres", "emojipresentation", .ranges emojiPresentationRanges),
    ("extpict", "extendedpictographic", .ranges extendedPictographicRanges),
    ("ext", "extender", .ranges extenderRanges),
    ("grbase", "graphemebase", graphemeBase),
    ("grext", "graphemeextend", graphemeExtend),
    ("grlink", "graphemelink", .ranges graphemeLinkRanges),
    ("hex", "hexdigit", .ranges hexDigitRanges),
    ("hyphen", "hyphen", .ranges hyphenRanges),
    ("idsb", "idsbinaryoperator", .ranges idsBinaryOperatorRanges),
    ("idst", "idstrinaryoperator", .ranges idsTrinaryOperatorRanges),
    ("idsu", "idsunaryoperator", .ranges idsUnaryOperatorRanges),
    ("idcompatmathcontinue", "idcompatmathcontinue", .ranges idCompatMathContinueRanges),
    ("idcompatmathstart", "idcompatmathstart", .ranges idCompatMathStartRanges),
    ("idc", "idcontinue", idContinue),
    ("ids", "idstart", idStart),
    ("ideo", "ideographic", .ranges ideographicRanges),
    ("joinc", "joincontrol", .ranges joinControlRanges),
    ("loe", "logicalorderexception", .ranges logicalOrderExceptionRanges),
    ("lower", "lowercase", lowercase),
    ("math", "math", math),
    ("mcm", "modifiercombiningmark", .ranges modifierCombiningMarkRanges),
    ("nchar", "noncharactercodepoint", .ranges noncharacterCodePointRanges),
    ("oalpha", "otheralphabetic", .ranges otherAlphabeticRanges),
    ("odi", "otherdefaultignorablecodepoint", .ranges otherDefaultIgnorableCodePointRanges),
    ("ogrext", "othergraphemeextend", .ranges otherGraphemeExtendRanges),
    ("oidc", "otheridcontinue", .ranges otherIdContinueRanges),
    ("oids", "otheridstart", .ranges otherIdStartRanges),
    ("olower", "otherlowercase", .ranges otherLowercaseRanges),
    ("omath", "othermath", .ranges otherMathRanges),
    ("oupper", "otheruppercase", .ranges otherUppercaseRanges),
    ("patsyn", "patternsyntax", .ranges patternSyntaxRanges),
    ("patws", "patternwhitespace", .ranges patternWhiteSpaceRanges),
    ("pcm", "prependedconcatenationmark", .ranges prependedConcatenationMarkRanges),
    ("qmark", "quotationmark", .ranges quotationMarkRanges),
    ("radical", "radical", .ranges radicalRanges),
    ("ri", "regionalindicator", .ranges regionalIndicatorRanges),
    ("sterm", "sentenceterminal", .ranges sentenceTerminalRanges),
    ("sd", "softdotted", .ranges softDottedRanges),
    ("term", "terminalpunctuation", .ranges terminalPunctuationRanges),
    ("uideo", "unifiedideograph", .ranges unifiedIdeographRanges),
    ("upper", "uppercase", uppercase),
    ("vs", "variationselector", .ranges variationSelectorRanges),
    ("space", "whitespace", .ranges blankRanges),
    ("wspace", "whitespace", .ranges blankRanges),
    ("xidc", "xidcontinue", .difference idContinue (.ranges unnormalizedContinueRanges)),
    ("xids", "xidstart", .difference idStart (.ranges unnormalizedStartRanges))]

end Property

end Peg.Regex
