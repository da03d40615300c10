import Peg.Text.CodeRange

/-!
# Characters of several scripts

Characters that are shared by some scripts belong to the script Common or Inherited. For each
script, the characters that it shares in this way.
-/

namespace Peg.Regex

open Peg.Text

/-- The shared characters of the scripts from Adlam to Lisu. -/
def sharedFromAdlamToLisu : List (String × List CodeRange) :=
  [("adlam",
      [⟨0x61f, 0x61f⟩, ⟨0x640, 0x640⟩, ⟨0x204f, 0x204f⟩, ⟨0x2e41, 0x2e41⟩]),
    ("arabic",
      [⟨0x60c, 0x60c⟩, ⟨0x61b, 0x61b⟩, ⟨0x61f, 0x61f⟩, ⟨0x640, 0x640⟩, ⟨0x64b, 0x655⟩,
      ⟨0x670, 0x670⟩, ⟨0x204f, 0x204f⟩, ⟨0x2e41, 0x2e41⟩, ⟨0xfd3e, 0xfd3f⟩, ⟨0x102e0, 0x102fb⟩]),
    ("armenian",
      [⟨0x308, 0x308⟩]),
    ("avestan",
      [⟨0xb7, 0xb7⟩, ⟨0x2e30, 0x2e31⟩]),
    ("bengali",
      [⟨0x2bc, 0x2bc⟩, ⟨0x951, 0x952⟩, ⟨0x964, 0x965⟩, ⟨0x1cd0, 0x1cd0⟩, ⟨0x1cd2, 0x1cd2⟩,
      ⟨0x1cd5, 0x1cd6⟩, ⟨0x1cd8, 0x1cd8⟩, ⟨0x1ce1, 0x1ce1⟩, ⟨0x1cea, 0x1cea⟩, ⟨0x1ced, 0x1ced⟩,
      ⟨0x1cf2, 0x1cf2⟩, ⟨0x1cf5, 0x1cf7⟩, ⟨0xa8f1, 0xa8f1⟩]),
    ("bopomofo",
      [⟨0x2c7, 0x2c7⟩, ⟨0x2c9, 0x2cb⟩, ⟨0x2d9, 0x2d9⟩, ⟨0x3001, 0x3003⟩, ⟨0x3008, 0x3011⟩,
      ⟨0x3013, 0x301f⟩, ⟨0x302a, 0x302d⟩, ⟨0x3030, 0x3030⟩, ⟨0x3037, 0x3037⟩, ⟨0x30fb, 0x30fb⟩,
      ⟨0xfe45, 0xfe46⟩, ⟨0xff61, 0xff65⟩]),
    ("buginese",
      [⟨0xa9cf, 0xa9cf⟩]),
    ("buhid",
      [⟨0x1735, 0x1736⟩]),
    ("carian",
      [⟨0xb7, 0xb7⟩, ⟨0x205a, 0x205a⟩, ⟨0x205d, 0x205d⟩, ⟨0x2e31, 0x2e31⟩]),
    ("caucasianalbanian",
      [⟨0x304, 0x304⟩, ⟨0x331, 0x331⟩, ⟨0x35e, 0x35e⟩]),
    ("chakma",
      [⟨0x9e6, 0x9ef⟩, ⟨0x1040, 0x1049⟩]),
    ("cherokee",
      [⟨0x300, 0x302⟩, ⟨0x304, 0x304⟩, ⟨0x30b, 0x30c⟩, ⟨0x323, 0x324⟩, ⟨0x330, 0x331⟩]),
    ("coptic",
      [⟨0xb7, 0xb7⟩, ⟨0x300, 0x300⟩, ⟨0x304, 0x305⟩, ⟨0x307, 0x307⟩, ⟨0x374, 0x375⟩,
      ⟨0x2e17, 0x2e17⟩, ⟨0x102e0, 0x102fb⟩]),
    ("cypriot",
      [⟨0x10100, 0x10102⟩, ⟨0x10107, 0x10133⟩, ⟨0x10137, 0x1013f⟩]),
    ("cyprominoan",
      [⟨0x10100, 0x10101⟩]),
    ("cyrillic",
      [⟨0x2bc, 0x2bc⟩, ⟨0x300, 0x302⟩, ⟨0x304, 0x304⟩, ⟨0x306, 0x306⟩, ⟨0x308, 0x308⟩,
      ⟨0x30b, 0x30b⟩, ⟨0x311, 0x311⟩, ⟨0x485, 0x486⟩, ⟨0x1df8, 0x1df8⟩, ⟨0x2e43, 0x2e43⟩]),
    ("devanagari",
      [⟨0x2bc, 0x2bc⟩, ⟨0x951, 0x952⟩, ⟨0x964, 0x965⟩, ⟨0x1cd0, 0x1cf6⟩, ⟨0x1cf8, 0x1cf9⟩,
      ⟨0x20f0, 0x20f0⟩, ⟨0xa830, 0xa839⟩]),
    ("dogra",
      [⟨0x964, 0x96f⟩, ⟨0xa830, 0xa839⟩]),
    ("duployan",
      [⟨0xb7, 0xb7⟩, ⟨0x307, 0x308⟩, ⟨0x30a, 0x30a⟩, ⟨0x323, 0x324⟩, ⟨0x2e3c, 0x2e3c⟩,
      ⟨0x1bca0, 0x1bca3⟩]),
    ("elbasan",
      [⟨0xb7, 0xb7⟩, ⟨0x305, 0x305⟩]),
    ("ethiopic",
      [⟨0x30e, 0x30e⟩]),
    ("garay",
      [⟨0x60c, 0x60c⟩, ⟨0x61b, 0x61b⟩, ⟨0x61f, 0x61f⟩]),
    ("georgian",
      [⟨0xb7, 0xb7⟩, ⟨0x589, 0x589⟩, ⟨0x10fb, 0x10fb⟩, ⟨0x205a, 0x205a⟩, ⟨0x2e31, 0x2e31⟩]),
    ("glagolitic",
      [⟨0xb7, 0xb7⟩, ⟨0x303, 0x303⟩, ⟨0x305, 0x305⟩, ⟨0x484, 0x484⟩, ⟨0x487, 0x487⟩,
      ⟨0x589, 0x589⟩, ⟨0x10fb, 0x10fb⟩, ⟨0x205a, 0x205a⟩, ⟨0x2e43, 0x2e43⟩, ⟨0xa66f, 0xa66f⟩]),
    ("gothic",
      [⟨0xb7, 0xb7⟩, ⟨0x304, 0x305⟩, ⟨0x308, 0x308⟩, ⟨0x331, 0x331⟩]),
    ("grantha",
      [⟨0x951, 0x952⟩, ⟨0x964, 0x965⟩, ⟨0xbe6, 0xbf3⟩, ⟨0x1cd0, 0x1cd0⟩, ⟨0x1cd2, 0x1cd3⟩,
      ⟨0x1cf2, 0x1cf4⟩, ⟨0x1cf8, 0x1cf9⟩, ⟨0x20f0, 0x20f0⟩, ⟨0x1133b, 0x1133b⟩,
      ⟨0x11fd0, 0x11fd1⟩, ⟨0x11fd3, 0x11fd3⟩]),
    ("greek",
      [⟨0xb7, 0xb7⟩, ⟨0x300, 0x301⟩, ⟨0x304, 0x304⟩, ⟨0x306, 0x306⟩, ⟨0x308, 0x308⟩,
      ⟨0x313, 0x313⟩, ⟨0x342, 0x342⟩, ⟨0x345, 0x345⟩, ⟨0x374, 0x374⟩, ⟨0x1dc0, 0x1dc1⟩,
      ⟨0x205d, 0x205d⟩]),
    ("gujarati",
      [⟨0x951, 0x952⟩, ⟨0x964, 0x965⟩, ⟨0xa830, 0xa839⟩]),
    ("gunjalagondi",
      [⟨0xb7, 0xb7⟩, ⟨0x964, 0x965⟩]),
    ("gurmukhi",
      [⟨0x951, 0x952⟩, ⟨0x964, 0x965⟩, ⟨0xa830, 0xa839⟩]),
    ("gurungkhema",
      [⟨0x965, 0x965⟩]),
    ("han",
      [⟨0xb7, 0xb7⟩, ⟨0x2ff0, 0x2fff⟩, ⟨0x3001, 0x3003⟩, ⟨0x3006, 0x3006⟩, ⟨0x3008, 0x3011⟩,
      ⟨0x3013, 0x301f⟩, ⟨0x302a, 0x302d⟩, ⟨0x3030, 0x3030⟩, ⟨0x3037, 0x3037⟩, ⟨0x303c, 0x303f⟩,
      ⟨0x30fb, 0x30fb⟩, ⟨0x3190, 0x319f⟩, ⟨0x31c0, 0x31e5⟩, ⟨0x31ef, 0x31ef⟩, ⟨0x3220, 0x3247⟩,
      ⟨0x3280, 0x32b0⟩, ⟨0x32c0, 0x32cb⟩, ⟨0x32ff, 0x32ff⟩, ⟨0x3358, 0x3370⟩, ⟨0x337b, 0x337f⟩,
      ⟨0x33e0, 0x33fe⟩, ⟨0xa700, 0xa707⟩, ⟨0xfe45, 0xfe46⟩, ⟨0xff61, 0xff65⟩, ⟨0x1d360, 0x1d371⟩,
      ⟨0x1f250, 0x1f251⟩]),
    ("hangul",
      [⟨0x3001, 0x3003⟩, ⟨0x3008, 0x3011⟩, ⟨0x3013, 0x301f⟩, ⟨0x3030, 0x3030⟩, ⟨0x3037, 0x3037⟩,
      ⟨0x30fb, 0x30fb⟩, ⟨0xfe45, 0xfe46⟩, ⟨0xff61, 0xff65⟩]),
    ("hanifirohingya",
      [⟨0x60c, 0x60c⟩, ⟨0x61b, 0x61b⟩, ⟨0x61f, 0x61f⟩, ⟨0x640, 0x640⟩, ⟨0x6d4, 0x6d4⟩]),
    ("hanunoo",
      [⟨0x1735, 0x1736⟩]),
    ("hebrew",
      [⟨0x307, 0x308⟩]),
    ("hiragana",
      [⟨0x3001, 0x3003⟩, ⟨0x3008, 0x3011⟩, ⟨0x3013, 0x301f⟩, ⟨0x3030, 0x3035⟩, ⟨0x3037, 0x3037⟩,
      ⟨0x303c, 0x303d⟩, ⟨0x3099, 0x309c⟩, ⟨0x30a0, 0x30a0⟩, ⟨0x30fb, 0x30fc⟩, ⟨0xfe45, 0xfe46⟩,
      ⟨0xff61, 0xff65⟩, ⟨0xff70, 0xff70⟩, ⟨0xff9e, 0xff9f⟩]),
    ("javanese",
      [⟨0xa9cf, 0xa9cf⟩]),
    ("kaithi",
      [⟨0x966, 0x96f⟩, ⟨0x2e31, 0x2e31⟩, ⟨0xa830, 0xa839⟩]),
    ("kannada",
      [⟨0x951, 0x952⟩, ⟨0x964, 0x965⟩, ⟨0x1cd0, 0x1cd0⟩, ⟨0x1cd2, 0x1cd3⟩, ⟨0x1cda, 0x1cda⟩,
      ⟨0x1cf2, 0x1cf2⟩, ⟨0x1cf4, 0x1cf4⟩, ⟨0xa830, 0xa835⟩]),
    ("katakana",
      [⟨0x305, 0x305⟩, ⟨0x323, 0x323⟩, ⟨0x3001, 0x3003⟩, ⟨0x3008, 0x3011⟩, ⟨0x3013, 0x301f⟩,
      ⟨0x3030, 0x3035⟩, ⟨0x3037, 0x3037⟩, ⟨0x303c, 0x303d⟩, ⟨0x3099, 0x309c⟩, ⟨0x30a0, 0x30a0⟩,
      ⟨0x30fb, 0x30fc⟩, ⟨0xfe45, 0xfe46⟩, ⟨0xff61, 0xff65⟩, ⟨0xff70, 0xff70⟩, ⟨0xff9e, 0xff9f⟩]),
    ("kayahli",
      [⟨0xa92e, 0xa92e⟩]),
    ("khojki",
      [⟨0xae6, 0xaef⟩, ⟨0xa830, 0xa839⟩]),
    ("khudawadi",
      [⟨0x964, 0x965⟩, ⟨0xa830, 0xa839⟩]),
    ("latin",
      [⟨0xb7, 0xb7⟩, ⟨0x2bc, 0x2bc⟩, ⟨0x2c7, 0x2c7⟩, ⟨0x2c9, 0x2cb⟩, ⟨0x2cd, 0x2cd⟩,
      ⟨0x2d7, 0x2d7⟩, ⟨0x2d9, 0x2d9⟩, ⟨0x300, 0x30e⟩, ⟨0x310, 0x311⟩, ⟨0x313, 0x313⟩,
      ⟨0x320, 0x320⟩, ⟨0x323, 0x325⟩, ⟨0x32d, 0x32e⟩, ⟨0x330, 0x331⟩, ⟨0x358, 0x358⟩,
      ⟨0x35e, 0x35e⟩, ⟨0x363, 0x36f⟩, ⟨0x485, 0x486⟩, ⟨0x951, 0x952⟩, ⟨0x10fb, 0x10fb⟩,
      ⟨0x1df8, 0x1df8⟩, ⟨0x202f, 0x202f⟩, ⟨0x20f0, 0x20f0⟩, ⟨0x2e17, 0x2e17⟩, ⟨0xa700, 0xa707⟩,
      ⟨0xa92e, 0xa92e⟩]),
    ("limbu",
      [⟨0x965, 0x965⟩]),
    ("lineara",
      [⟨0x10107, 0x10133⟩]),
    ("linearb",
      [⟨0x10100, 0x10102⟩, ⟨0x10107, 0x10133⟩, ⟨0x10137, 0x1013f⟩]),
    ("lisu",
      [⟨0x2bc, 0x2bc⟩, ⟨0x2cd, 0x2cd⟩, ⟨0x300a, 0x300b⟩])]

/-- The shared characters of the scripts from Lycian to Yi. -/
def sharedFromLycianToYi : List (String × List CodeRange) :=
  [("lycian",
      [⟨0x205a, 0x205a⟩]),
    ("lydian",
      [⟨0xb7, 0xb7⟩, ⟨0x2e31, 0x2e31⟩]),
    ("mahajani",
      [⟨0xb7, 0xb7⟩, ⟨0x964, 0x96f⟩, ⟨0xa830, 0xa839⟩]),
    ("malayalam",
      [⟨0x951, 0x952⟩, ⟨0x964, 0x965⟩, ⟨0x1cda, 0x1cda⟩, ⟨0x1cf2, 0x1cf2⟩, ⟨0xa830, 0xa832⟩]),
    ("mandaic",
      [⟨0x640, 0x640⟩]),
    ("manichaean",
      [⟨0x640, 0x640⟩]),
    ("masaramgondi",
      [⟨0x964, 0x965⟩]),
    ("meroitichieroglyphs",
      [⟨0x205d, 0x205d⟩]),
    ("modi",
      [⟨0xa830, 0xa839⟩]),
    ("mongolian",
      [⟨0x1802, 0x1803⟩, ⟨0x1805, 0x1805⟩, ⟨0x202f, 0x202f⟩, ⟨0x3001, 0x3002⟩, ⟨0x3008, 0x300b⟩]),
    ("multani",
      [⟨0xa66, 0xa6f⟩]),
    ("myanmar",
      [⟨0xa92e, 0xa92e⟩]),
    ("nandinagari",
      [⟨0x964, 0x965⟩, ⟨0xce6, 0xcef⟩, ⟨0x1ce9, 0x1ce9⟩, ⟨0x1cf2, 0x1cf2⟩, ⟨0x1cfa, 0x1cfa⟩,
      ⟨0xa830, 0xa835⟩]),
    ("nko",
      [⟨0x60c, 0x60c⟩, ⟨0x61b, 0x61b⟩, ⟨0x61f, 0x61f⟩, ⟨0xfd3e, 0xfd3f⟩]),
    ("olonal",
      [⟨0x964, 0x965⟩]),
    ("oldhungarian",
      [⟨0x205a, 0x205a⟩, ⟨0x205d, 0x205d⟩, ⟨0x2e31, 0x2e31⟩, ⟨0x2e41, 0x2e41⟩]),
    ("oldpermic",
      [⟨0xb7, 0xb7⟩, ⟨0x300, 0x300⟩, ⟨0x306, 0x308⟩, ⟨0x313, 0x313⟩, ⟨0x483, 0x483⟩]),
    ("oldturkic",
      [⟨0x205a, 0x205a⟩, ⟨0x2e30, 0x2e30⟩]),
    ("olduyghur",
      [⟨0x640, 0x640⟩, ⟨0x10af2, 0x10af2⟩]),
    ("oriya",
      [⟨0x951, 0x952⟩, ⟨0x964, 0x965⟩, ⟨0x1cda, 0x1cda⟩, ⟨0x1cf2, 0x1cf2⟩]),
    ("osage",
      [⟨0x301, 0x301⟩, ⟨0x304, 0x304⟩, ⟨0x30b, 0x30b⟩, ⟨0x358, 0x358⟩]),
    ("phagspa",
      [⟨0x1802, 0x1803⟩, ⟨0x1805, 0x1805⟩, ⟨0x202f, 0x202f⟩, ⟨0x3002, 0x3002⟩]),
    ("psalterpahlavi",
      [⟨0x640, 0x640⟩]),
    ("runic",
      [⟨0x16eb, 0x16ed⟩]),
    ("samaritan",
      [⟨0x2e31, 0x2e31⟩]),
    ("sharada",
      [⟨0x951, 0x951⟩, ⟨0x1cd7, 0x1cd7⟩, ⟨0x1cd9, 0x1cd9⟩, ⟨0x1cdc, 0x1cdd⟩, ⟨0x1ce0, 0x1ce0⟩,
      ⟨0xa830, 0xa835⟩, ⟨0xa838, 0xa838⟩]),
    ("shavian",
      [⟨0xb7, 0xb7⟩]),
    ("sinhala",
      [⟨0x964, 0x965⟩, ⟨0x1cf2, 0x1cf2⟩]),
    ("sogdian",
      [⟨0x640, 0x640⟩]),
    ("sunuwar",
      [⟨0x300, 0x301⟩, ⟨0x303, 0x303⟩, ⟨0x30d, 0x30d⟩, ⟨0x310, 0x310⟩, ⟨0x32d, 0x32d⟩,
      ⟨0x331, 0x331⟩]),
    ("sylotinagri",
      [⟨0x964, 0x965⟩, ⟨0x9e6, 0x9ef⟩]),
    ("syriac",
      [⟨0x303, 0x304⟩, ⟨0x307, 0x308⟩, ⟨0x30a, 0x30a⟩, ⟨0x320, 0x320⟩, ⟨0x323, 0x325⟩,
      ⟨0x32d, 0x32e⟩, ⟨0x330, 0x330⟩, ⟨0x60c, 0x60c⟩, ⟨0x61b, 0x61c⟩, ⟨0x61f, 0x61f⟩,
      ⟨0x640, 0x640⟩, ⟨0x64b, 0x655⟩, ⟨0x670, 0x670⟩, ⟨0x1df8, 0x1df8⟩, ⟨0x1dfa, 0x1dfa⟩]),
    ("tagalog",
      [⟨0x1735, 0x1736⟩]),
    ("tagbanwa",
      [⟨0x1735, 0x1736⟩]),
    ("taile",
      [⟨0x300, 0x301⟩, ⟨0x307, 0x308⟩, ⟨0x30c, 0x30c⟩, ⟨0x1040, 0x1049⟩]),
    ("takri",
      [⟨0x964, 0x965⟩, ⟨0xa830, 0xa839⟩]),
    ("tamil",
      [⟨0x951, 0x952⟩, ⟨0x964, 0x965⟩, ⟨0x1cda, 0x1cda⟩, ⟨0xa8f3, 0xa8f3⟩, ⟨0x11301, 0x11301⟩,
      ⟨0x11303, 0x11303⟩, ⟨0x1133b, 0x1133c⟩]),
    ("tangut",
      [⟨0x2ff0, 0x2fff⟩, ⟨0x31ef, 0x31ef⟩]),
    ("telugu",
      [⟨0x951, 0x952⟩, ⟨0x964, 0x965⟩, ⟨0x1cda, 0x1cda⟩, ⟨0x1cf2, 0x1cf2⟩]),
    ("thaana",
      [⟨0x60c, 0x60c⟩, ⟨0x61b, 0x61c⟩, ⟨0x61f, 0x61f⟩, ⟨0x660, 0x669⟩, ⟨0xfdf2, 0xfdf2⟩,
      ⟨0xfdfd, 0xfdfd⟩]),
    ("thai",
      [⟨0x2bc, 0x2bc⟩, ⟨0x2d7, 0x2d7⟩, ⟨0x303, 0x303⟩, ⟨0x331, 0x331⟩]),
    ("tibetan",
      [⟨0x3008, 0x300b⟩]),
    ("tifinagh",
      [⟨0x302, 0x302⟩, ⟨0x304, 0x304⟩, ⟨0x307, 0x307⟩, ⟨0x309, 0x309⟩]),
    ("tirhuta",
      [⟨0x951, 0x952⟩, ⟨0x964, 0x965⟩, ⟨0x1cf2, 0x1cf2⟩, ⟨0xa830, 0xa839⟩]),
    ("todhri",
      [⟨0x301, 0x301⟩, ⟨0x304, 0x304⟩, ⟨0x307, 0x307⟩, ⟨0x311, 0x311⟩, ⟨0x313, 0x313⟩,
      ⟨0x35e, 0x35e⟩]),
    ("toto",
      [⟨0x2bc, 0x2bc⟩]),
    ("tulutigalari",
      [⟨0xce6, 0xcef⟩, ⟨0x1cf2, 0x1cf2⟩, ⟨0x1cf4, 0x1cf4⟩, ⟨0xa830, 0xa835⟩, ⟨0xa8f1, 0xa8f1⟩]),
    ("yezidi",
      [⟨0x60c, 0x60c⟩, ⟨0x61b, 0x61b⟩, ⟨0x61f, 0x61f⟩, ⟨0x660, 0x669⟩]),
    ("yi",
      [⟨0x3001, 0x3002⟩, ⟨0x3008, 0x3011⟩, ⟨0x3014, 0x301b⟩, ⟨0x30fb, 0x30fb⟩, ⟨0xff61, 0xff65⟩])]

/-- The shared characters of all scripts that have some, by the long name of the script. -/
def sharedCharacters : List (String × List CodeRange) :=
  sharedFromAdlamToLisu ++ sharedFromLycianToYi

end Peg.Regex
