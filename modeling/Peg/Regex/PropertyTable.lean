import Peg.Text.CodeRange

/-!
# Character properties used by patterns

The classes behind the escapes for word characters and digits, and the characters with each of the
two-valued properties that do not follow from other properties. A property whose name starts with
"other" lists what another property has in addition to its general categories.
-/

namespace Peg.Regex

open Peg.Text

/-- Alphabetic characters, marks, decimal digits, connector punctuation and joiners. -/
def wordRanges : List CodeRange :=
  [⟨0x30, 0x39⟩, ⟨0x41, 0x5a⟩, ⟨0x5f, 0x5f⟩, ⟨0x61, 0x7a⟩, ⟨0xaa, 0xaa⟩, ⟨0xb5, 0xb5⟩,
    ⟨0xba, 0xba⟩, ⟨0xc0, 0xd6⟩, ⟨0xd8, 0xf6⟩, ⟨0xf8, 0x2c1⟩, ⟨0x2c6, 0x2d1⟩, ⟨0x2e0, 0x2e4⟩,
    ⟨0x2ec, 0x2ec⟩, ⟨0x2ee, 0x2ee⟩, ⟨0x300, 0x374⟩, ⟨0x376, 0x377⟩, ⟨0x37a, 0x37d⟩,
    ⟨0x37f, 0x37f⟩, ⟨0x386, 0x386⟩, ⟨0x388, 0x38a⟩, ⟨0x38c, 0x38c⟩, ⟨0x38e, 0x3a1⟩,
    ⟨0x3a3, 0x3f5⟩, ⟨0x3f7, 0x481⟩, ⟨0x483, 0x52f⟩, ⟨0x531, 0x556⟩, ⟨0x559, 0x559⟩,
    ⟨0x560, 0x588⟩, ⟨0x591, 0x5bd⟩, ⟨0x5bf, 0x5bf⟩, ⟨0x5c1, 0x5c2⟩, ⟨0x5c4, 0x5c5⟩,
    ⟨0x5c7, 0x5c7⟩, ⟨0x5d0, 0x5ea⟩, ⟨0x5ef, 0x5f2⟩, ⟨0x610, 0x61a⟩, ⟨0x620, 0x669⟩,
    ⟨0x66e, 0x6d3⟩, ⟨0x6d5, 0x6dc⟩, ⟨0x6df, 0x6e8⟩, ⟨0x6ea, 0x6fc⟩, ⟨0x6ff, 0x6ff⟩,
    ⟨0x710, 0x74a⟩, ⟨0x74d, 0x7b1⟩, ⟨0x7c0, 0x7f5⟩, ⟨0x7fa, 0x7fa⟩, ⟨0x7fd, 0x7fd⟩,
    ⟨0x800, 0x82d⟩, ⟨0x840, 0x85b⟩, ⟨0x860, 0x86a⟩, ⟨0x870, 0x887⟩, ⟨0x889, 0x88e⟩,
    ⟨0x897, 0x8e1⟩, ⟨0x8e3, 0x963⟩, ⟨0x966, 0x96f⟩, ⟨0x971, 0x983⟩, ⟨0x985, 0x98c⟩,
    ⟨0x98f, 0x990⟩, ⟨0x993, 0x9a8⟩, ⟨0x9aa, 0x9b0⟩, ⟨0x9b2, 0x9b2⟩, ⟨0x9b6, 0x9b9⟩,
    ⟨0x9bc, 0x9c4⟩, ⟨0x9c7, 0x9c8⟩, ⟨0x9cb, 0x9ce⟩, ⟨0x9d7, 0x9d7⟩, ⟨0x9dc, 0x9dd⟩,
    ⟨0x9df, 0x9e3⟩, ⟨0x9e6, 0x9f1⟩, ⟨0x9fc, 0x9fc⟩, ⟨0x9fe, 0x9fe⟩, ⟨0xa01, 0xa03⟩,
    ⟨0xa05, 0xa0a⟩, ⟨0xa0f, 0xa10⟩, ⟨0xa13, 0xa28⟩, ⟨0xa2a, 0xa30⟩, ⟨0xa32, 0xa33⟩,
    ⟨0xa35, 0xa36⟩, ⟨0xa38, 0xa39⟩, ⟨0xa3c, 0xa3c⟩, ⟨0xa3e, 0xa42⟩, ⟨0xa47, 0xa48⟩,
    ⟨0xa4b, 0xa4d⟩, ⟨0xa51, 0xa51⟩, ⟨0xa59, 0xa5c⟩, ⟨0xa5e, 0xa5e⟩, ⟨0xa66, 0xa75⟩,
    ⟨0xa81, 0xa83⟩, ⟨0xa85, 0xa8d⟩, ⟨0xa8f, 0xa91⟩, ⟨0xa93, 0xaa8⟩, ⟨0xaaa, 0xab0⟩,
    ⟨0xab2, 0xab3⟩, ⟨0xab5, 0xab9⟩, ⟨0xabc, 0xac5⟩, ⟨0xac7, 0xac9⟩, ⟨0xacb, 0xacd⟩,
    ⟨0xad0, 0xad0⟩, ⟨0xae0, 0xae3⟩, ⟨0xae6, 0xaef⟩, ⟨0xaf9, 0xaff⟩, ⟨0xb01, 0xb03⟩,
    ⟨0xb05, 0xb0c⟩, ⟨0xb0f, 0xb10⟩, ⟨0xb13, 0xb28⟩, ⟨0xb2a, 0xb30⟩, ⟨0xb32, 0xb33⟩,
    ⟨0xb35, 0xb39⟩, ⟨0xb3c, 0xb44⟩, ⟨0xb47, 0xb48⟩, ⟨0xb4b, 0xb4d⟩, ⟨0xb55, 0xb57⟩,
    ⟨0xb5c, 0xb5d⟩, ⟨0xb5f, 0xb63⟩, ⟨0xb66, 0xb6f⟩, ⟨0xb71, 0xb71⟩, ⟨0xb82, 0xb83⟩,
    ⟨0xb85, 0xb8a⟩, ⟨0xb8e, 0xb90⟩, ⟨0xb92, 0xb95⟩, ⟨0xb99, 0xb9a⟩, ⟨0xb9c, 0xb9c⟩,
    ⟨0xb9e, 0xb9f⟩, ⟨0xba3, 0xba4⟩, ⟨0xba8, 0xbaa⟩, ⟨0xbae, 0xbb9⟩, ⟨0xbbe, 0xbc2⟩,
    ⟨0xbc6, 0xbc8⟩, ⟨0xbca, 0xbcd⟩, ⟨0xbd0, 0xbd0⟩, ⟨0xbd7, 0xbd7⟩, ⟨0xbe6, 0xbef⟩,
    ⟨0xc00, 0xc0c⟩, ⟨0xc0e, 0xc10⟩, ⟨0xc12, 0xc28⟩, ⟨0xc2a, 0xc39⟩, ⟨0xc3c, 0xc44⟩,
    ⟨0xc46, 0xc48⟩, ⟨0xc4a, 0xc4d⟩, ⟨0xc55, 0xc56⟩, ⟨0xc58, 0xc5a⟩, ⟨0xc5d, 0xc5d⟩,
    ⟨0xc60, 0xc63⟩, ⟨0xc66, 0xc6f⟩, ⟨0xc80, 0xc83⟩, ⟨0xc85, 0xc8c⟩, ⟨0xc8e, 0xc90⟩,
    ⟨0xc92, 0xca8⟩, ⟨0xcaa, 0xcb3⟩, ⟨0xcb5, 0xcb9⟩, ⟨0xcbc, 0xcc4⟩, ⟨0xcc6, 0xcc8⟩,
    ⟨0xcca, 0xccd⟩, ⟨0xcd5, 0xcd6⟩, ⟨0xcdd, 0xcde⟩, ⟨0xce0, 0xce3⟩, ⟨0xce6, 0xcef⟩,
    ⟨0xcf1, 0xcf3⟩, ⟨0xd00, 0xd0c⟩, ⟨0xd0e, 0xd10⟩, ⟨0xd12, 0xd44⟩, ⟨0xd46, 0xd48⟩,
    ⟨0xd4a, 0xd4e⟩, ⟨0xd54, 0xd57⟩, ⟨0xd5f, 0xd63⟩, ⟨0xd66, 0xd6f⟩, ⟨0xd7a, 0xd7f⟩,
    ⟨0xd81, 0xd83⟩, ⟨0xd85, 0xd96⟩, ⟨0xd9a, 0xdb1⟩, ⟨0xdb3, 0xdbb⟩, ⟨0xdbd, 0xdbd⟩,
    ⟨0xdc0, 0xdc6⟩, ⟨0xdca, 0xdca⟩, ⟨0xdcf, 0xdd4⟩, ⟨0xdd6, 0xdd6⟩, ⟨0xdd8, 0xddf⟩,
    ⟨0xde6, 0xdef⟩, ⟨0xdf2, 0xdf3⟩, ⟨0xe01, 0xe3a⟩, ⟨0xe40, 0xe4e⟩, ⟨0xe50, 0xe59⟩,
    ⟨0xe81, 0xe82⟩, ⟨0xe84, 0xe84⟩, ⟨0xe86, 0xe8a⟩, ⟨0xe8c, 0xea3⟩, ⟨0xea5, 0xea5⟩,
    ⟨0xea7, 0xebd⟩, ⟨0xec0, 0xec4⟩, ⟨0xec6, 0xec6⟩, ⟨0xec8, 0xece⟩, ⟨0xed0, 0xed9⟩,
    ⟨0xedc, 0xedf⟩, ⟨0xf00, 0xf00⟩, ⟨0xf18, 0xf19⟩, ⟨0xf20, 0xf29⟩, ⟨0xf35, 0xf35⟩,
    ⟨0xf37, 0xf37⟩, ⟨0xf39, 0xf39⟩, ⟨0xf3e, 0xf47⟩, ⟨0xf49, 0xf6c⟩, ⟨0xf71, 0xf84⟩,
    ⟨0xf86, 0xf97⟩, ⟨0xf99, 0xfbc⟩, ⟨0xfc6, 0xfc6⟩, ⟨0x1000, 0x1049⟩, ⟨0x1050, 0x109d⟩,
    ⟨0x10a0, 0x10c5⟩, ⟨0x10c7, 0x10c7⟩, ⟨0x10cd, 0x10cd⟩, ⟨0x10d0, 0x10fa⟩, ⟨0x10fc, 0x1248⟩,
    ⟨0x124a, 0x124d⟩, ⟨0x1250, 0x1256⟩, ⟨0x1258, 0x1258⟩, ⟨0x125a, 0x125d⟩, ⟨0x1260, 0x1288⟩,
    ⟨0x128a, 0x128d⟩, ⟨0x1290, 0x12b0⟩, ⟨0x12b2, 0x12b5⟩, ⟨0x12b8, 0x12be⟩, ⟨0x12c0, 0x12c0⟩,
    ⟨0x12c2, 0x12c5⟩, ⟨0x12c8, 0x12d6⟩, ⟨0x12d8, 0x1310⟩, ⟨0x1312, 0x1315⟩, ⟨0x1318, 0x135a⟩,
    ⟨0x135d, 0x135f⟩, ⟨0x1380, 0x138f⟩, ⟨0x13a0, 0x13f5⟩, ⟨0x13f8, 0x13fd⟩, ⟨0x1401, 0x166c⟩,
    ⟨0x166f, 0x167f⟩, ⟨0x1681, 0x169a⟩, ⟨0x16a0, 0x16ea⟩, ⟨0x16ee, 0x16f8⟩, ⟨0x1700, 0x1715⟩,
    ⟨0x171f, 0x1734⟩, ⟨0x1740, 0x1753⟩, ⟨0x1760, 0x176c⟩, ⟨0x176e, 0x1770⟩, ⟨0x1772, 0x1773⟩,
    ⟨0x1780, 0x17d3⟩, ⟨0x17d7, 0x17d7⟩, ⟨0x17dc, 0x17dd⟩, ⟨0x17e0, 0x17e9⟩, ⟨0x180b, 0x180d⟩,
    ⟨0x180f, 0x1819⟩, ⟨0x1820, 0x1878⟩, ⟨0x1880, 0x18aa⟩, ⟨0x18b0, 0x18f5⟩, ⟨0x1900, 0x191e⟩,
    ⟨0x1920, 0x192b⟩, ⟨0x1930, 0x193b⟩, ⟨0x1946, 0x196d⟩, ⟨0x1970, 0x1974⟩, ⟨0x1980, 0x19ab⟩,
    ⟨0x19b0, 0x19c9⟩, ⟨0x19d0, 0x19d9⟩, ⟨0x1a00, 0x1a1b⟩, ⟨0x1a20, 0x1a5e⟩, ⟨0x1a60, 0x1a7c⟩,
    ⟨0x1a7f, 0x1a89⟩, ⟨0x1a90, 0x1a99⟩, ⟨0x1aa7, 0x1aa7⟩, ⟨0x1ab0, 0x1ace⟩, ⟨0x1b00, 0x1b4c⟩,
    ⟨0x1b50, 0x1b59⟩, ⟨0x1b6b, 0x1b73⟩, ⟨0x1b80, 0x1bf3⟩, ⟨0x1c00, 0x1c37⟩, ⟨0x1c40, 0x1c49⟩,
    ⟨0x1c4d, 0x1c7d⟩, ⟨0x1c80, 0x1c8a⟩, ⟨0x1c90, 0x1cba⟩, ⟨0x1cbd, 0x1cbf⟩, ⟨0x1cd0, 0x1cd2⟩,
    ⟨0x1cd4, 0x1cfa⟩, ⟨0x1d00, 0x1f15⟩, ⟨0x1f18, 0x1f1d⟩, ⟨0x1f20, 0x1f45⟩, ⟨0x1f48, 0x1f4d⟩,
    ⟨0x1f50, 0x1f57⟩, ⟨0x1f59, 0x1f59⟩, ⟨0x1f5b, 0x1f5b⟩, ⟨0x1f5d, 0x1f5d⟩, ⟨0x1f5f, 0x1f7d⟩,
    ⟨0x1f80, 0x1fb4⟩, ⟨0x1fb6, 0x1fbc⟩, ⟨0x1fbe, 0x1fbe⟩, ⟨0x1fc2, 0x1fc4⟩, ⟨0x1fc6, 0x1fcc⟩,
    ⟨0x1fd0, 0x1fd3⟩, ⟨0x1fd6, 0x1fdb⟩, ⟨0x1fe0, 0x1fec⟩, ⟨0x1ff2, 0x1ff4⟩, ⟨0x1ff6, 0x1ffc⟩,
    ⟨0x200c, 0x200d⟩, ⟨0x203f, 0x2040⟩, ⟨0x2054, 0x2054⟩, ⟨0x2071, 0x2071⟩, ⟨0x207f, 0x207f⟩,
    ⟨0x2090, 0x209c⟩, ⟨0x20d0, 0x20f0⟩, ⟨0x2102, 0x2102⟩, ⟨0x2107, 0x2107⟩, ⟨0x210a, 0x2113⟩,
    ⟨0x2115, 0x2115⟩, ⟨0x2119, 0x211d⟩, ⟨0x2124, 0x2124⟩, ⟨0x2126, 0x2126⟩, ⟨0x2128, 0x2128⟩,
    ⟨0x212a, 0x212d⟩, ⟨0x212f, 0x2139⟩, ⟨0x213c, 0x213f⟩, ⟨0x2145, 0x2149⟩, ⟨0x214e, 0x214e⟩,
    ⟨0x2160, 0x2188⟩, ⟨0x24b6, 0x24e9⟩, ⟨0x2c00, 0x2ce4⟩, ⟨0x2ceb, 0x2cf3⟩, ⟨0x2d00, 0x2d25⟩,
    ⟨0x2d27, 0x2d27⟩, ⟨0x2d2d, 0x2d2d⟩, ⟨0x2d30, 0x2d67⟩, ⟨0x2d6f, 0x2d6f⟩, ⟨0x2d7f, 0x2d96⟩,
    ⟨0x2da0, 0x2da6⟩, ⟨0x2da8, 0x2dae⟩, ⟨0x2db0, 0x2db6⟩, ⟨0x2db8, 0x2dbe⟩, ⟨0x2dc0, 0x2dc6⟩,
    ⟨0x2dc8, 0x2dce⟩, ⟨0x2dd0, 0x2dd6⟩, ⟨0x2dd8, 0x2dde⟩, ⟨0x2de0, 0x2dff⟩, ⟨0x2e2f, 0x2e2f⟩,
    ⟨0x3005, 0x3007⟩, ⟨0x3021, 0x302f⟩, ⟨0x3031, 0x3035⟩, ⟨0x3038, 0x303c⟩, ⟨0x3041, 0x3096⟩,
    ⟨0x3099, 0x309a⟩, ⟨0x309d, 0x309f⟩, ⟨0x30a1, 0x30fa⟩, ⟨0x30fc, 0x30ff⟩, ⟨0x3105, 0x312f⟩,
    ⟨0x3131, 0x318e⟩, ⟨0x31a0, 0x31bf⟩, ⟨0x31f0, 0x31ff⟩, ⟨0x3400, 0x4dbf⟩, ⟨0x4e00, 0xa48c⟩,
    ⟨0xa4d0, 0xa4fd⟩, ⟨0xa500, 0xa60c⟩, ⟨0xa610, 0xa62b⟩, ⟨0xa640, 0xa672⟩, ⟨0xa674, 0xa67d⟩,
    ⟨0xa67f, 0xa6f1⟩, ⟨0xa717, 0xa71f⟩, ⟨0xa722, 0xa788⟩, ⟨0xa78b, 0xa7cd⟩, ⟨0xa7d0, 0xa7d1⟩,
    ⟨0xa7d3, 0xa7d3⟩, ⟨0xa7d5, 0xa7dc⟩, ⟨0xa7f2, 0xa827⟩, ⟨0xa82c, 0xa82c⟩, ⟨0xa840, 0xa873⟩,
    ⟨0xa880, 0xa8c5⟩, ⟨0xa8d0, 0xa8d9⟩, ⟨0xa8e0, 0xa8f7⟩, ⟨0xa8fb, 0xa8fb⟩, ⟨0xa8fd, 0xa92d⟩,
    ⟨0xa930, 0xa953⟩, ⟨0xa960, 0xa97c⟩, ⟨0xa980, 0xa9c0⟩, ⟨0xa9cf, 0xa9d9⟩, ⟨0xa9e0, 0xa9fe⟩,
    ⟨0xaa00, 0xaa36⟩, ⟨0xaa40, 0xaa4d⟩, ⟨0xaa50, 0xaa59⟩, ⟨0xaa60, 0xaa76⟩, ⟨0xaa7a, 0xaac2⟩,
    ⟨0xaadb, 0xaadd⟩, ⟨0xaae0, 0xaaef⟩, ⟨0xaaf2, 0xaaf6⟩, ⟨0xab01, 0xab06⟩, ⟨0xab09, 0xab0e⟩,
    ⟨0xab11, 0xab16⟩, ⟨0xab20, 0xab26⟩, ⟨0xab28, 0xab2e⟩, ⟨0xab30, 0xab5a⟩, ⟨0xab5c, 0xab69⟩,
    ⟨0xab70, 0xabea⟩, ⟨0xabec, 0xabed⟩, ⟨0xabf0, 0xabf9⟩, ⟨0xac00, 0xd7a3⟩, ⟨0xd7b0, 0xd7c6⟩,
    ⟨0xd7cb, 0xd7fb⟩, ⟨0xf900, 0xfa6d⟩, ⟨0xfa70, 0xfad9⟩, ⟨0xfb00, 0xfb06⟩, ⟨0xfb13, 0xfb17⟩,
    ⟨0xfb1d, 0xfb28⟩, ⟨0xfb2a, 0xfb36⟩, ⟨0xfb38, 0xfb3c⟩, ⟨0xfb3e, 0xfb3e⟩, ⟨0xfb40, 0xfb41⟩,
    ⟨0xfb43, 0xfb44⟩, ⟨0xfb46, 0xfbb1⟩, ⟨0xfbd3, 0xfd3d⟩, ⟨0xfd50, 0xfd8f⟩, ⟨0xfd92, 0xfdc7⟩,
    ⟨0xfdf0, 0xfdfb⟩, ⟨0xfe00, 0xfe0f⟩, ⟨0xfe20, 0xfe2f⟩, ⟨0xfe33, 0xfe34⟩, ⟨0xfe4d, 0xfe4f⟩,
    ⟨0xfe70, 0xfe74⟩, ⟨0xfe76, 0xfefc⟩, ⟨0xff10, 0xff19⟩, ⟨0xff21, 0xff3a⟩, ⟨0xff3f, 0xff3f⟩,
    ⟨0xff41, 0xff5a⟩, ⟨0xff66, 0xffbe⟩, ⟨0xffc2, 0xffc7⟩, ⟨0xffca, 0xffcf⟩, ⟨0xffd2, 0xffd7⟩,
    ⟨0xffda, 0xffdc⟩, ⟨0x10000, 0x1000b⟩, ⟨0x1000d, 0x10026⟩, ⟨0x10028, 0x1003a⟩,
    ⟨0x1003c, 0x1003d⟩, ⟨0x1003f, 0x1004d⟩, ⟨0x10050, 0x1005d⟩, ⟨0x10080, 0x100fa⟩,
    ⟨0x10140, 0x10174⟩, ⟨0x101fd, 0x101fd⟩, ⟨0x10280, 0x1029c⟩, ⟨0x102a0, 0x102d0⟩,
    ⟨0x102e0, 0x102e0⟩, ⟨0x10300, 0x1031f⟩, ⟨0x1032d, 0x1034a⟩, ⟨0x10350, 0x1037a⟩,
    ⟨0x10380, 0x1039d⟩, ⟨0x103a0, 0x103c3⟩, ⟨0x103c8, 0x103cf⟩, ⟨0x103d1, 0x103d5⟩,
    ⟨0x10400, 0x1049d⟩, ⟨0x104a0, 0x104a9⟩, ⟨0x104b0, 0x104d3⟩, ⟨0x104d8, 0x104fb⟩,
    ⟨0x10500, 0x10527⟩, ⟨0x10530, 0x10563⟩, ⟨0x10570, 0x1057a⟩, ⟨0x1057c, 0x1058a⟩,
    ⟨0x1058c, 0x10592⟩, ⟨0x10594, 0x10595⟩, ⟨0x10597, 0x105a1⟩, ⟨0x105a3, 0x105b1⟩,
    ⟨0x105b3, 0x105b9⟩, ⟨0x105bb, 0x105bc⟩, ⟨0x105c0, 0x105f3⟩, ⟨0x10600, 0x10736⟩,
    ⟨0x10740, 0x10755⟩, ⟨0x10760, 0x10767⟩, ⟨0x10780, 0x10785⟩, ⟨0x10787, 0x107b0⟩,
    ⟨0x107b2, 0x107ba⟩, ⟨0x10800, 0x10805⟩, ⟨0x10808, 0x10808⟩, ⟨0x1080a, 0x10835⟩,
    ⟨0x10837, 0x10838⟩, ⟨0x1083c, 0x1083c⟩, ⟨0x1083f, 0x10855⟩, ⟨0x10860, 0x10876⟩,
    ⟨0x10880, 0x1089e⟩, ⟨0x108e0, 0x108f2⟩, ⟨0x108f4, 0x108f5⟩, ⟨0x10900, 0x10915⟩,
    ⟨0x10920, 0x10939⟩, ⟨0x10980, 0x109b7⟩, ⟨0x109be, 0x109bf⟩, ⟨0x10a00, 0x10a03⟩,
    ⟨0x10a05, 0x10a06⟩, ⟨0x10a0c, 0x10a13⟩, ⟨0x10a15, 0x10a17⟩, ⟨0x10a19, 0x10a35⟩,
    ⟨0x10a38, 0x10a3a⟩, ⟨0x10a3f, 0x10a3f⟩, ⟨0x10a60, 0x10a7c⟩, ⟨0x10a80, 0x10a9c⟩,
    ⟨0x10ac0, 0x10ac7⟩, ⟨0x10ac9, 0x10ae6⟩, ⟨0x10b00, 0x10b35⟩, ⟨0x10b40, 0x10b55⟩,
    ⟨0x10b60, 0x10b72⟩, ⟨0x10b80, 0x10b91⟩, ⟨0x10c00, 0x10c48⟩, ⟨0x10c80, 0x10cb2⟩,
    ⟨0x10cc0, 0x10cf2⟩, ⟨0x10d00, 0x10d27⟩, ⟨0x10d30, 0x10d39⟩, ⟨0x10d40, 0x10d65⟩,
    ⟨0x10d69, 0x10d6d⟩, ⟨0x10d6f, 0x10d85⟩, ⟨0x10e80, 0x10ea9⟩, ⟨0x10eab, 0x10eac⟩,
    ⟨0x10eb0, 0x10eb1⟩, ⟨0x10ec2, 0x10ec4⟩, ⟨0x10efc, 0x10f1c⟩, ⟨0x10f27, 0x10f27⟩,
    ⟨0x10f30, 0x10f50⟩, ⟨0x10f70, 0x10f85⟩, ⟨0x10fb0, 0x10fc4⟩, ⟨0x10fe0, 0x10ff6⟩,
    ⟨0x11000, 0x11046⟩, ⟨0x11066, 0x11075⟩, ⟨0x1107f, 0x110ba⟩, ⟨0x110c2, 0x110c2⟩,
    ⟨0x110d0, 0x110e8⟩, ⟨0x110f0, 0x110f9⟩, ⟨0x11100, 0x11134⟩, ⟨0x11136, 0x1113f⟩,
    ⟨0x11144, 0x11147⟩, ⟨0x11150, 0x11173⟩, ⟨0x11176, 0x11176⟩, ⟨0x11180, 0x111c4⟩,
    ⟨0x111c9, 0x111cc⟩, ⟨0x111ce, 0x111da⟩, ⟨0x111dc, 0x111dc⟩, ⟨0x11200, 0x11211⟩,
    ⟨0x11213, 0x11237⟩, ⟨0x1123e, 0x11241⟩, ⟨0x11280, 0x11286⟩, ⟨0x11288, 0x11288⟩,
    ⟨0x1128a, 0x1128d⟩, ⟨0x1128f, 0x1129d⟩, ⟨0x1129f, 0x112a8⟩, ⟨0x112b0, 0x112ea⟩,
    ⟨0x112f0, 0x112f9⟩, ⟨0x11300, 0x11303⟩, ⟨0x11305, 0x1130c⟩, ⟨0x1130f, 0x11310⟩,
    ⟨0x11313, 0x11328⟩, ⟨0x1132a, 0x11330⟩, ⟨0x11332, 0x11333⟩, ⟨0x11335, 0x11339⟩,
    ⟨0x1133b, 0x11344⟩, ⟨0x11347, 0x11348⟩, ⟨0x1134b, 0x1134d⟩, ⟨0x11350, 0x11350⟩,
    ⟨0x11357, 0x11357⟩, ⟨0x1135d, 0x11363⟩, ⟨0x11366, 0x1136c⟩, ⟨0x11370, 0x11374⟩,
    ⟨0x11380, 0x11389⟩, ⟨0x1138b, 0x1138b⟩, ⟨0x1138e, 0x1138e⟩, ⟨0x11390, 0x113b5⟩,
    ⟨0x113b7, 0x113c0⟩, ⟨0x113c2, 0x113c2⟩, ⟨0x113c5, 0x113c5⟩, ⟨0x113c7, 0x113ca⟩,
    ⟨0x113cc, 0x113d3⟩, ⟨0x113e1, 0x113e2⟩, ⟨0x11400, 0x1144a⟩, ⟨0x11450, 0x11459⟩,
    ⟨0x1145e, 0x11461⟩, ⟨0x11480, 0x114c5⟩, ⟨0x114c7, 0x114c7⟩, ⟨0x114d0, 0x114d9⟩,
    ⟨0x11580, 0x115b5⟩, ⟨0x115b8, 0x115c0⟩, ⟨0x115d8, 0x115dd⟩, ⟨0x11600, 0x11640⟩,
    ⟨0x11644, 0x11644⟩, ⟨0x11650, 0x11659⟩, ⟨0x11680, 0x116b8⟩, ⟨0x116c0, 0x116c9⟩,
    ⟨0x116d0, 0x116e3⟩, ⟨0x11700, 0x1171a⟩, ⟨0x1171d, 0x1172b⟩, ⟨0x11730, 0x11739⟩,
    ⟨0x11740, 0x11746⟩, ⟨0x11800, 0x1183a⟩, ⟨0x118a0, 0x118e9⟩, ⟨0x118ff, 0x11906⟩,
    ⟨0x11909, 0x11909⟩, ⟨0x1190c, 0x11913⟩, ⟨0x11915, 0x11916⟩, ⟨0x11918, 0x11935⟩,
    ⟨0x11937, 0x11938⟩, ⟨0x1193b, 0x11943⟩, ⟨0x11950, 0x11959⟩, ⟨0x119a0, 0x119a7⟩,
    ⟨0x119aa, 0x119d7⟩, ⟨0x119da, 0x119e1⟩, ⟨0x119e3, 0x119e4⟩, ⟨0x11a00, 0x11a3e⟩,
    ⟨0x11a47, 0x11a47⟩, ⟨0x11a50, 0x11a99⟩, ⟨0x11a9d, 0x11a9d⟩, ⟨0x11ab0, 0x11af8⟩,
    ⟨0x11bc0, 0x11be0⟩, ⟨0x11bf0, 0x11bf9⟩, ⟨0x11c00, 0x11c08⟩, ⟨0x11c0a, 0x11c36⟩,
    ⟨0x11c38, 0x11c40⟩, ⟨0x11c50, 0x11c59⟩, ⟨0x11c72, 0x11c8f⟩, ⟨0x11c92, 0x11ca7⟩,
    ⟨0x11ca9, 0x11cb6⟩, ⟨0x11d00, 0x11d06⟩, ⟨0x11d08, 0x11d09⟩, ⟨0x11d0b, 0x11d36⟩,
    ⟨0x11d3a, 0x11d3a⟩, ⟨0x11d3c, 0x11d3d⟩, ⟨0x11d3f, 0x11d47⟩, ⟨0x11d50, 0x11d59⟩,
    ⟨0x11d60, 0x11d65⟩, ⟨0x11d67, 0x11d68⟩, ⟨0x11d6a, 0x11d8e⟩, ⟨0x11d90, 0x11d91⟩,
    ⟨0x11d93, 0x11d98⟩, ⟨0x11da0, 0x11da9⟩, ⟨0x11ee0, 0x11ef6⟩, ⟨0x11f00, 0x11f10⟩,
    ⟨0x11f12, 0x11f3a⟩, ⟨0x11f3e, 0x11f42⟩, ⟨0x11f50, 0x11f5a⟩, ⟨0x11fb0, 0x11fb0⟩,
    ⟨0x12000, 0x12399⟩, ⟨0x12400, 0x1246e⟩, ⟨0x12480, 0x12543⟩, ⟨0x12f90, 0x12ff0⟩,
    ⟨0x13000, 0x1342f⟩, ⟨0x13440, 0x13455⟩, ⟨0x13460, 0x143fa⟩, ⟨0x14400, 0x14646⟩,
    ⟨0x16100, 0x16139⟩, ⟨0x16800, 0x16a38⟩, ⟨0x16a40, 0x16a5e⟩, ⟨0x16a60, 0x16a69⟩,
    ⟨0x16a70, 0x16abe⟩, ⟨0x16ac0, 0x16ac9⟩, ⟨0x16ad0, 0x16aed⟩, ⟨0x16af0, 0x16af4⟩,
    ⟨0x16b00, 0x16b36⟩, ⟨0x16b40, 0x16b43⟩, ⟨0x16b50, 0x16b59⟩, ⟨0x16b63, 0x16b77⟩,
    ⟨0x16b7d, 0x16b8f⟩, ⟨0x16d40, 0x16d6c⟩, ⟨0x16d70, 0x16d79⟩, ⟨0x16e40, 0x16e7f⟩,
    ⟨0x16f00, 0x16f4a⟩, ⟨0x16f4f, 0x16f87⟩, ⟨0x16f8f, 0x16f9f⟩, ⟨0x16fe0, 0x16fe1⟩,
    ⟨0x16fe3, 0x16fe4⟩, ⟨0x16ff0, 0x16ff1⟩, ⟨0x17000, 0x187f7⟩, ⟨0x18800, 0x18cd5⟩,
    ⟨0x18cff, 0x18d08⟩, ⟨0x1aff0, 0x1aff3⟩, ⟨0x1aff5, 0x1affb⟩, ⟨0x1affd, 0x1affe⟩,
    ⟨0x1b000, 0x1b122⟩, ⟨0x1b132, 0x1b132⟩, ⟨0x1b150, 0x1b152⟩, ⟨0x1b155, 0x1b155⟩,
    ⟨0x1b164, 0x1b167⟩, ⟨0x1b170, 0x1b2fb⟩, ⟨0x1bc00, 0x1bc6a⟩, ⟨0x1bc70, 0x1bc7c⟩,
    ⟨0x1bc80, 0x1bc88⟩, ⟨0x1bc90, 0x1bc99⟩, ⟨0x1bc9d, 0x1bc9e⟩, ⟨0x1ccf0, 0x1ccf9⟩,
    ⟨0x1cf00, 0x1cf2d⟩, ⟨0x1cf30, 0x1cf46⟩, ⟨0x1d165, 0x1d169⟩, ⟨0x1d16d, 0x1d172⟩,
    ⟨0x1d17b, 0x1d182⟩, ⟨0x1d185, 0x1d18b⟩, ⟨0x1d1aa, 0x1d1ad⟩, ⟨0x1d242, 0x1d244⟩,
    ⟨0x1d400, 0x1d454⟩, ⟨0x1d456, 0x1d49c⟩, ⟨0x1d49e, 0x1d49f⟩, ⟨0x1d4a2, 0x1d4a2⟩,
    ⟨0x1d4a5, 0x1d4a6⟩, ⟨0x1d4a9, 0x1d4ac⟩, ⟨0x1d4ae, 0x1d4b9⟩, ⟨0x1d4bb, 0x1d4bb⟩,
    ⟨0x1d4bd, 0x1d4c3⟩, ⟨0x1d4c5, 0x1d505⟩, ⟨0x1d507, 0x1d50a⟩, ⟨0x1d50d, 0x1d514⟩,
    ⟨0x1d516, 0x1d51c⟩, ⟨0x1d51e, 0x1d539⟩, ⟨0x1d53b, 0x1d53e⟩, ⟨0x1d540, 0x1d544⟩,
    ⟨0x1d546, 0x1d546⟩, ⟨0x1d54a, 0x1d550⟩, ⟨0x1d552, 0x1d6a5⟩, ⟨0x1d6a8, 0x1d6c0⟩,
    ⟨0x1d6c2, 0x1d6da⟩, ⟨0x1d6dc, 0x1d6fa⟩, ⟨0x1d6fc, 0x1d714⟩, ⟨0x1d716, 0x1d734⟩,
    ⟨0x1d736, 0x1d74e⟩, ⟨0x1d750, 0x1d76e⟩, ⟨0x1d770, 0x1d788⟩, ⟨0x1d78a, 0x1d7a8⟩,
    ⟨0x1d7aa, 0x1d7c2⟩, ⟨0x1d7c4, 0x1d7cb⟩, ⟨0x1d7ce, 0x1d7ff⟩, ⟨0x1da00, 0x1da36⟩,
    ⟨0x1da3b, 0x1da6c⟩, ⟨0x1da75, 0x1da75⟩, ⟨0x1da84, 0x1da84⟩, ⟨0x1da9b, 0x1da9f⟩,
    ⟨0x1daa1, 0x1daaf⟩, ⟨0x1df00, 0x1df1e⟩, ⟨0x1df25, 0x1df2a⟩, ⟨0x1e000, 0x1e006⟩,
    ⟨0x1e008, 0x1e018⟩, ⟨0x1e01b, 0x1e021⟩, ⟨0x1e023, 0x1e024⟩, ⟨0x1e026, 0x1e02a⟩,
    ⟨0x1e030, 0x1e06d⟩, ⟨0x1e08f, 0x1e08f⟩, ⟨0x1e100, 0x1e12c⟩, ⟨0x1e130, 0x1e13d⟩,
    ⟨0x1e140, 0x1e149⟩, ⟨0x1e14e, 0x1e14e⟩, ⟨0x1e290, 0x1e2ae⟩, ⟨0x1e2c0, 0x1e2f9⟩,
    ⟨0x1e4d0, 0x1e4f9⟩, ⟨0x1e5d0, 0x1e5fa⟩, ⟨0x1e7e0, 0x1e7e6⟩, ⟨0x1e7e8, 0x1e7eb⟩,
    ⟨0x1e7ed, 0x1e7ee⟩, ⟨0x1e7f0, 0x1e7fe⟩, ⟨0x1e800, 0x1e8c4⟩, ⟨0x1e8d0, 0x1e8d6⟩,
    ⟨0x1e900, 0x1e94b⟩, ⟨0x1e950, 0x1e959⟩, ⟨0x1ee00, 0x1ee03⟩, ⟨0x1ee05, 0x1ee1f⟩,
    ⟨0x1ee21, 0x1ee22⟩, ⟨0x1ee24, 0x1ee24⟩, ⟨0x1ee27, 0x1ee27⟩, ⟨0x1ee29, 0x1ee32⟩,
    ⟨0x1ee34, 0x1ee37⟩, ⟨0x1ee39, 0x1ee39⟩, ⟨0x1ee3b, 0x1ee3b⟩, ⟨0x1ee42, 0x1ee42⟩,
    ⟨0x1ee47, 0x1ee47⟩, ⟨0x1ee49, 0x1ee49⟩, ⟨0x1ee4b, 0x1ee4b⟩, ⟨0x1ee4d, 0x1ee4f⟩,
    ⟨0x1ee51, 0x1ee52⟩, ⟨0x1ee54, 0x1ee54⟩, ⟨0x1ee57, 0x1ee57⟩, ⟨0x1ee59, 0x1ee59⟩,
    ⟨0x1ee5b, 0x1ee5b⟩, ⟨0x1ee5d, 0x1ee5d⟩, ⟨0x1ee5f, 0x1ee5f⟩, ⟨0x1ee61, 0x1ee62⟩,
    ⟨0x1ee64, 0x1ee64⟩, ⟨0x1ee67, 0x1ee6a⟩, ⟨0x1ee6c, 0x1ee72⟩, ⟨0x1ee74, 0x1ee77⟩,
    ⟨0x1ee79, 0x1ee7c⟩, ⟨0x1ee7e, 0x1ee7e⟩, ⟨0x1ee80, 0x1ee89⟩, ⟨0x1ee8b, 0x1ee9b⟩,
    ⟨0x1eea1, 0x1eea3⟩, ⟨0x1eea5, 0x1eea9⟩, ⟨0x1eeab, 0x1eebb⟩, ⟨0x1f130, 0x1f149⟩,
    ⟨0x1f150, 0x1f169⟩, ⟨0x1f170, 0x1f189⟩, ⟨0x1fbf0, 0x1fbf9⟩, ⟨0x20000, 0x2a6df⟩,
    ⟨0x2a700, 0x2b739⟩, ⟨0x2b740, 0x2b81d⟩, ⟨0x2b820, 0x2cea1⟩, ⟨0x2ceb0, 0x2ebe0⟩,
    ⟨0x2ebf0, 0x2ee5d⟩, ⟨0x2f800, 0x2fa1d⟩, ⟨0x30000, 0x3134a⟩, ⟨0x31350, 0x323af⟩,
    ⟨0xe0100, 0xe01ef⟩]

/-- Decimal digits of every script. -/
def digitRanges : List CodeRange :=
  [⟨0x30, 0x39⟩, ⟨0x660, 0x669⟩, ⟨0x6f0, 0x6f9⟩, ⟨0x7c0, 0x7c9⟩, ⟨0x966, 0x96f⟩, ⟨0x9e6, 0x9ef⟩,
    ⟨0xa66, 0xa6f⟩, ⟨0xae6, 0xaef⟩, ⟨0xb66, 0xb6f⟩, ⟨0xbe6, 0xbef⟩, ⟨0xc66, 0xc6f⟩,
    ⟨0xce6, 0xcef⟩, ⟨0xd66, 0xd6f⟩, ⟨0xde6, 0xdef⟩, ⟨0xe50, 0xe59⟩, ⟨0xed0, 0xed9⟩,
    ⟨0xf20, 0xf29⟩, ⟨0x1040, 0x1049⟩, ⟨0x1090, 0x1099⟩, ⟨0x17e0, 0x17e9⟩, ⟨0x1810, 0x1819⟩,
    ⟨0x1946, 0x194f⟩, ⟨0x19d0, 0x19d9⟩, ⟨0x1a80, 0x1a89⟩, ⟨0x1a90, 0x1a99⟩, ⟨0x1b50, 0x1b59⟩,
    ⟨0x1bb0, 0x1bb9⟩, ⟨0x1c40, 0x1c49⟩, ⟨0x1c50, 0x1c59⟩, ⟨0xa620, 0xa629⟩, ⟨0xa8d0, 0xa8d9⟩,
    ⟨0xa900, 0xa909⟩, ⟨0xa9d0, 0xa9d9⟩, ⟨0xa9f0, 0xa9f9⟩, ⟨0xaa50, 0xaa59⟩, ⟨0xabf0, 0xabf9⟩,
    ⟨0xff10, 0xff19⟩, ⟨0x104a0, 0x104a9⟩, ⟨0x10d30, 0x10d39⟩, ⟨0x10d40, 0x10d49⟩,
    ⟨0x11066, 0x1106f⟩, ⟨0x110f0, 0x110f9⟩, ⟨0x11136, 0x1113f⟩, ⟨0x111d0, 0x111d9⟩,
    ⟨0x112f0, 0x112f9⟩, ⟨0x11450, 0x11459⟩, ⟨0x114d0, 0x114d9⟩, ⟨0x11650, 0x11659⟩,
    ⟨0x116c0, 0x116c9⟩, ⟨0x116d0, 0x116e3⟩, ⟨0x11730, 0x11739⟩, ⟨0x118e0, 0x118e9⟩,
    ⟨0x11950, 0x11959⟩, ⟨0x11bf0, 0x11bf9⟩, ⟨0x11c50, 0x11c59⟩, ⟨0x11d50, 0x11d59⟩,
    ⟨0x11da0, 0x11da9⟩, ⟨0x11f50, 0x11f59⟩, ⟨0x16130, 0x16139⟩, ⟨0x16a60, 0x16a69⟩,
    ⟨0x16ac0, 0x16ac9⟩, ⟨0x16b50, 0x16b59⟩, ⟨0x16d70, 0x16d79⟩, ⟨0x1ccf0, 0x1ccf9⟩,
    ⟨0x1d7ce, 0x1d7ff⟩, ⟨0x1e140, 0x1e149⟩, ⟨0x1e2f0, 0x1e2f9⟩, ⟨0x1e4f0, 0x1e4f9⟩,
    ⟨0x1e5f1, 0x1e5fa⟩, ⟨0x1e950, 0x1e959⟩, ⟨0x1fbf0, 0x1fbf9⟩]

/-- Characters with the property ASCII_Hex_Digit. -/
def asciiHexDigitRanges : List CodeRange :=
  [⟨0x30, 0x39⟩, ⟨0x41, 0x46⟩, ⟨0x61, 0x66⟩]

/-- Characters with the property Bidi_Control. -/
def bidiControlRanges : List CodeRange :=
  [⟨0x61c, 0x61c⟩, ⟨0x200e, 0x200f⟩, ⟨0x202a, 0x202e⟩, ⟨0x2066, 0x2069⟩]

/-- Characters with the property Bidi_Mirrored. -/
def bidiMirroredRanges : List CodeRange :=
  [⟨0x28, 0x29⟩, ⟨0x3c, 0x3c⟩, ⟨0x3e, 0x3e⟩, ⟨0x5b, 0x5b⟩, ⟨0x5d, 0x5d⟩, ⟨0x7b, 0x7b⟩,
    ⟨0x7d, 0x7d⟩, ⟨0xab, 0xab⟩, ⟨0xbb, 0xbb⟩, ⟨0xf3a, 0xf3d⟩, ⟨0x169b, 0x169c⟩, ⟨0x2039, 0x203a⟩,
    ⟨0x2045, 0x2046⟩, ⟨0x207d, 0x207e⟩, ⟨0x208d, 0x208e⟩, ⟨0x2140, 0x2140⟩, ⟨0x2201, 0x2204⟩,
    ⟨0x2208, 0x220d⟩, ⟨0x2211, 0x2211⟩, ⟨0x2215, 0x2216⟩, ⟨0x221a, 0x221d⟩, ⟨0x221f, 0x2222⟩,
    ⟨0x2224, 0x2224⟩, ⟨0x2226, 0x2226⟩, ⟨0x222b, 0x2233⟩, ⟨0x2239, 0x2239⟩, ⟨0x223b, 0x224c⟩,
    ⟨0x2252, 0x2255⟩, ⟨0x225f, 0x2260⟩, ⟨0x2262, 0x2262⟩, ⟨0x2264, 0x226b⟩, ⟨0x226d, 0x228c⟩,
    ⟨0x228f, 0x2292⟩, ⟨0x2298, 0x2298⟩, ⟨0x22a2, 0x22a3⟩, ⟨0x22a6, 0x22b8⟩, ⟨0x22be, 0x22bf⟩,
    ⟨0x22c9, 0x22cd⟩, ⟨0x22d0, 0x22d1⟩, ⟨0x22d6, 0x22ed⟩, ⟨0x22f0, 0x22ff⟩, ⟨0x2308, 0x230b⟩,
    ⟨0x2320, 0x2321⟩, ⟨0x2329, 0x232a⟩, ⟨0x2768, 0x2775⟩, ⟨0x27c0, 0x27c0⟩, ⟨0x27c3, 0x27c6⟩,
    ⟨0x27c8, 0x27c9⟩, ⟨0x27cb, 0x27cd⟩, ⟨0x27d3, 0x27d6⟩, ⟨0x27dc, 0x27de⟩, ⟨0x27e2, 0x27ef⟩,
    ⟨0x2983, 0x2998⟩, ⟨0x299b, 0x29a0⟩, ⟨0x29a2, 0x29af⟩, ⟨0x29b8, 0x29b8⟩, ⟨0x29c0, 0x29c5⟩,
    ⟨0x29c9, 0x29c9⟩, ⟨0x29ce, 0x29d2⟩, ⟨0x29d4, 0x29d5⟩, ⟨0x29d8, 0x29dc⟩, ⟨0x29e1, 0x29e1⟩,
    ⟨0x29e3, 0x29e5⟩, ⟨0x29e8, 0x29e9⟩, ⟨0x29f4, 0x29f9⟩, ⟨0x29fc, 0x29fd⟩, ⟨0x2a0a, 0x2a1c⟩,
    ⟨0x2a1e, 0x2a21⟩, ⟨0x2a24, 0x2a24⟩, ⟨0x2a26, 0x2a26⟩, ⟨0x2a29, 0x2a29⟩, ⟨0x2a2b, 0x2a2e⟩,
    ⟨0x2a34, 0x2a35⟩, ⟨0x2a3c, 0x2a3e⟩, ⟨0x2a57, 0x2a58⟩, ⟨0x2a64, 0x2a65⟩, ⟨0x2a6a, 0x2a6d⟩,
    ⟨0x2a6f, 0x2a70⟩, ⟨0x2a73, 0x2a74⟩, ⟨0x2a79, 0x2aa3⟩, ⟨0x2aa6, 0x2aad⟩, ⟨0x2aaf, 0x2ad6⟩,
    ⟨0x2adc, 0x2adc⟩, ⟨0x2ade, 0x2ade⟩, ⟨0x2ae2, 0x2ae6⟩, ⟨0x2aec, 0x2aee⟩, ⟨0x2af3, 0x2af3⟩,
    ⟨0x2af7, 0x2afb⟩, ⟨0x2afd, 0x2afd⟩, ⟨0x2bfe, 0x2bfe⟩, ⟨0x2e02, 0x2e05⟩, ⟨0x2e09, 0x2e0a⟩,
    ⟨0x2e0c, 0x2e0d⟩, ⟨0x2e1c, 0x2e1d⟩, ⟨0x2e20, 0x2e29⟩, ⟨0x2e55, 0x2e5c⟩, ⟨0x3008, 0x3011⟩,
    ⟨0x3014, 0x301b⟩, ⟨0xfe59, 0xfe5e⟩, ⟨0xfe64, 0xfe65⟩, ⟨0xff08, 0xff09⟩, ⟨0xff1c, 0xff1c⟩,
    ⟨0xff1e, 0xff1e⟩, ⟨0xff3b, 0xff3b⟩, ⟨0xff3d, 0xff3d⟩, ⟨0xff5b, 0xff5b⟩, ⟨0xff5d, 0xff5d⟩,
    ⟨0xff5f, 0xff60⟩, ⟨0xff62, 0xff63⟩, ⟨0x1d6db, 0x1d6db⟩, ⟨0x1d715, 0x1d715⟩,
    ⟨0x1d74f, 0x1d74f⟩, ⟨0x1d789, 0x1d789⟩, ⟨0x1d7c3, 0x1d7c3⟩]

/-- Characters with the property Dash. -/
def dashRanges : List CodeRange :=
  [⟨0x2d, 0x2d⟩, ⟨0x58a, 0x58a⟩, ⟨0x5be, 0x5be⟩, ⟨0x1400, 0x1400⟩, ⟨0x1806, 0x1806⟩,
    ⟨0x2010, 0x2015⟩, ⟨0x2053, 0x2053⟩, ⟨0x207b, 0x207b⟩, ⟨0x208b, 0x208b⟩, ⟨0x2212, 0x2212⟩,
    ⟨0x2e17, 0x2e17⟩, ⟨0x2e1a, 0x2e1a⟩, ⟨0x2e3a, 0x2e3b⟩, ⟨0x2e40, 0x2e40⟩, ⟨0x2e5d, 0x2e5d⟩,
    ⟨0x301c, 0x301c⟩, ⟨0x3030, 0x3030⟩, ⟨0x30a0, 0x30a0⟩, ⟨0xfe31, 0xfe32⟩, ⟨0xfe58, 0xfe58⟩,
    ⟨0xfe63, 0xfe63⟩, ⟨0xff0d, 0xff0d⟩, ⟨0x10d6e, 0x10d6e⟩, ⟨0x10ead, 0x10ead⟩]

/-- Characters with the property Deprecated. -/
def deprecatedRanges : List CodeRange :=
  [⟨0x149, 0x149⟩, ⟨0x673, 0x673⟩, ⟨0xf77, 0xf77⟩, ⟨0xf79, 0xf79⟩, ⟨0x17a3, 0x17a4⟩,
    ⟨0x206a, 0x206f⟩, ⟨0x2329, 0x232a⟩, ⟨0xe0001, 0xe0001⟩]

/-- Characters with the property Diacritic. -/
def diacriticRanges : List CodeRange :=
  [⟨0x5e, 0x5e⟩, ⟨0x60, 0x60⟩, ⟨0xa8, 0xa8⟩, ⟨0xaf, 0xaf⟩, ⟨0xb4, 0xb4⟩, ⟨0xb7, 0xb8⟩,
    ⟨0x2b0, 0x34e⟩, ⟨0x350, 0x357⟩, ⟨0x35d, 0x362⟩, ⟨0x374, 0x375⟩, ⟨0x37a, 0x37a⟩,
    ⟨0x384, 0x385⟩, ⟨0x483, 0x487⟩, ⟨0x559, 0x559⟩, ⟨0x591, 0x5a1⟩, ⟨0x5a3, 0x5bd⟩,
    ⟨0x5bf, 0x5bf⟩, ⟨0x5c1, 0x5c2⟩, ⟨0x5c4, 0x5c4⟩, ⟨0x64b, 0x652⟩, ⟨0x657, 0x658⟩,
    ⟨0x6df, 0x6e0⟩, ⟨0x6e5, 0x6e6⟩, ⟨0x6ea, 0x6ec⟩, ⟨0x730, 0x74a⟩, ⟨0x7a6, 0x7b0⟩,
    ⟨0x7eb, 0x7f5⟩, ⟨0x818, 0x819⟩, ⟨0x898, 0x89f⟩, ⟨0x8c9, 0x8d2⟩, ⟨0x8e3, 0x8fe⟩,
    ⟨0x93c, 0x93c⟩, ⟨0x94d, 0x94d⟩, ⟨0x951, 0x954⟩, ⟨0x971, 0x971⟩, ⟨0x9bc, 0x9bc⟩,
    ⟨0x9cd, 0x9cd⟩, ⟨0xa3c, 0xa3c⟩, ⟨0xa4d, 0xa4d⟩, ⟨0xabc, 0xabc⟩, ⟨0xacd, 0xacd⟩,
    ⟨0xafd, 0xaff⟩, ⟨0xb3c, 0xb3c⟩, ⟨0xb4d, 0xb4d⟩, ⟨0xb55, 0xb55⟩, ⟨0xbcd, 0xbcd⟩,
    ⟨0xc3c, 0xc3c⟩, ⟨0xc4d, 0xc4d⟩, ⟨0xcbc, 0xcbc⟩, ⟨0xccd, 0xccd⟩, ⟨0xd3b, 0xd3c⟩,
    ⟨0xd4d, 0xd4d⟩, ⟨0xdca, 0xdca⟩, ⟨0xe3a, 0xe3a⟩, ⟨0xe47, 0xe4c⟩, ⟨0xe4e, 0xe4e⟩,
    ⟨0xeba, 0xeba⟩, ⟨0xec8, 0xecc⟩, ⟨0xf18, 0xf19⟩, ⟨0xf35, 0xf35⟩, ⟨0xf37, 0xf37⟩,
    ⟨0xf39, 0xf39⟩, ⟨0xf3e, 0xf3f⟩, ⟨0xf82, 0xf84⟩, ⟨0xf86, 0xf87⟩, ⟨0xfc6, 0xfc6⟩,
    ⟨0x1037, 0x1037⟩, ⟨0x1039, 0x103a⟩, ⟨0x1063, 0x1064⟩, ⟨0x1069, 0x106d⟩, ⟨0x1087, 0x108d⟩,
    ⟨0x108f, 0x108f⟩, ⟨0x109a, 0x109b⟩, ⟨0x135d, 0x135f⟩, ⟨0x1714, 0x1715⟩, ⟨0x1734, 0x1734⟩,
    ⟨0x17c9, 0x17d3⟩, ⟨0x17dd, 0x17dd⟩, ⟨0x1939, 0x193b⟩, ⟨0x1a60, 0x1a60⟩, ⟨0x1a75, 0x1a7c⟩,
    ⟨0x1a7f, 0x1a7f⟩, ⟨0x1ab0, 0x1abe⟩, ⟨0x1ac1, 0x1acb⟩, ⟨0x1b34, 0x1b34⟩, ⟨0x1b44, 0x1b44⟩,
    ⟨0x1b6b, 0x1b73⟩, ⟨0x1baa, 0x1bab⟩, ⟨0x1be6, 0x1be6⟩, ⟨0x1bf2, 0x1bf3⟩, ⟨0x1c36, 0x1c37⟩,
    ⟨0x1c78, 0x1c7d⟩, ⟨0x1cd0, 0x1ce8⟩, ⟨0x1ced, 0x1ced⟩, ⟨0x1cf4, 0x1cf4⟩, ⟨0x1cf7, 0x1cf9⟩,
    ⟨0x1d2c, 0x1d6a⟩, ⟨0x1dc4, 0x1dcf⟩, ⟨0x1df5, 0x1dff⟩, ⟨0x1fbd, 0x1fbd⟩, ⟨0x1fbf, 0x1fc1⟩,
    ⟨0x1fcd, 0x1fcf⟩, ⟨0x1fdd, 0x1fdf⟩, ⟨0x1fed, 0x1fef⟩, ⟨0x1ffd, 0x1ffe⟩, ⟨0x2cef, 0x2cf1⟩,
    ⟨0x2e2f, 0x2e2f⟩, ⟨0x302a, 0x302f⟩, ⟨0x3099, 0x309c⟩, ⟨0x30fc, 0x30fc⟩, ⟨0xa66f, 0xa66f⟩,
    ⟨0xa67c, 0xa67d⟩, ⟨0xa67f, 0xa67f⟩, ⟨0xa69c, 0xa69d⟩, ⟨0xa6f0, 0xa6f1⟩, ⟨0xa700, 0xa721⟩,
    ⟨0xa788, 0xa78a⟩, ⟨0xa7f8, 0xa7f9⟩, ⟨0xa806, 0xa806⟩, ⟨0xa82c, 0xa82c⟩, ⟨0xa8c4, 0xa8c4⟩,
    ⟨0xa8e0, 0xa8f1⟩, ⟨0xa92b, 0xa92e⟩, ⟨0xa953, 0xa953⟩, ⟨0xa9b3, 0xa9b3⟩, ⟨0xa9c0, 0xa9c0⟩,
    ⟨0xa9e5, 0xa9e5⟩, ⟨0xaa7b, 0xaa7d⟩, ⟨0xaabf, 0xaac2⟩, ⟨0xaaf6, 0xaaf6⟩, ⟨0xab5b, 0xab5f⟩,
    ⟨0xab69, 0xab6b⟩, ⟨0xabec, 0xabed⟩, ⟨0xfb1e, 0xfb1e⟩, ⟨0xfe20, 0xfe2f⟩, ⟨0xff3e, 0xff3e⟩,
    ⟨0xff40, 0xff40⟩, ⟨0xff70, 0xff70⟩, ⟨0xff9e, 0xff9f⟩, ⟨0xffe3, 0xffe3⟩, ⟨0x102e0, 0x102e0⟩,
    ⟨0x10780, 0x10785⟩, ⟨0x10787, 0x107b0⟩, ⟨0x107b2, 0x107ba⟩, ⟨0x10a38, 0x10a3a⟩,
    ⟨0x10a3f, 0x10a3f⟩, ⟨0x10ae5, 0x10ae6⟩, ⟨0x10d22, 0x10d27⟩, ⟨0x10d4e, 0x10d4e⟩,
    ⟨0x10d69, 0x10d6d⟩, ⟨0x10efd, 0x10eff⟩, ⟨0x10f46, 0x10f50⟩, ⟨0x10f82, 0x10f85⟩,
    ⟨0x11046, 0x11046⟩, ⟨0x11070, 0x11070⟩, ⟨0x110b9, 0x110ba⟩, ⟨0x11133, 0x11134⟩,
    ⟨0x11173, 0x11173⟩, ⟨0x111c0, 0x111c0⟩, ⟨0x111ca, 0x111cc⟩, ⟨0x11235, 0x11236⟩,
    ⟨0x112e9, 0x112ea⟩, ⟨0x1133b, 0x1133c⟩, ⟨0x1134d, 0x1134d⟩, ⟨0x11366, 0x1136c⟩,
    ⟨0x11370, 0x11374⟩, ⟨0x113ce, 0x113d0⟩, ⟨0x113d2, 0x113d3⟩, ⟨0x113e1, 0x113e2⟩,
    ⟨0x11442, 0x11442⟩, ⟨0x11446, 0x11446⟩, ⟨0x114c2, 0x114c3⟩, ⟨0x115bf, 0x115c0⟩,
    ⟨0x1163f, 0x1163f⟩, ⟨0x116b6, 0x116b7⟩, ⟨0x1172b, 0x1172b⟩, ⟨0x11839, 0x1183a⟩,
    ⟨0x1193d, 0x1193e⟩, ⟨0x11943, 0x11943⟩, ⟨0x119e0, 0x119e0⟩, ⟨0x11a34, 0x11a34⟩,
    ⟨0x11a47, 0x11a47⟩, ⟨0x11a99, 0x11a99⟩, ⟨0x11c3f, 0x11c3f⟩, ⟨0x11d42, 0x11d42⟩,
    ⟨0x11d44, 0x11d45⟩, ⟨0x11d97, 0x11d97⟩, ⟨0x11f41, 0x11f42⟩, ⟨0x11f5a, 0x11f5a⟩,
    ⟨0x13447, 0x13455⟩, ⟨0x1612f, 0x1612f⟩, ⟨0x16af0, 0x16af4⟩, ⟨0x16b30, 0x16b36⟩,
    ⟨0x16d6b, 0x16d6c⟩, ⟨0x16f8f, 0x16f9f⟩, ⟨0x16ff0, 0x16ff1⟩, ⟨0x1aff0, 0x1aff3⟩,
    ⟨0x1aff5, 0x1affb⟩, ⟨0x1affd, 0x1affe⟩, ⟨0x1cf00, 0x1cf2d⟩, ⟨0x1cf30, 0x1cf46⟩,
    ⟨0x1d167, 0x1d169⟩, ⟨0x1d16d, 0x1d172⟩, ⟨0x1d17b, 0x1d182⟩, ⟨0x1d185, 0x1d18b⟩,
    ⟨0x1d1aa, 0x1d1ad⟩, ⟨0x1e030, 0x1e06d⟩, ⟨0x1e130, 0x1e136⟩, ⟨0x1e2ae, 0x1e2ae⟩,
    ⟨0x1e2ec, 0x1e2ef⟩, ⟨0x1e5ee, 0x1e5ef⟩, ⟨0x1e8d0, 0x1e8d6⟩, ⟨0x1e944, 0x1e946⟩,
    ⟨0x1e948, 0x1e94a⟩]

/-- Characters with the property Emoji. -/
def emojiRanges : List CodeRange :=
  [⟨0x23, 0x23⟩, ⟨0x2a, 0x2a⟩, ⟨0x30, 0x39⟩, ⟨0xa9, 0xa9⟩, ⟨0xae, 0xae⟩, ⟨0x203c, 0x203c⟩,
    ⟨0x2049, 0x2049⟩, ⟨0x2122, 0x2122⟩, ⟨0x2139, 0x2139⟩, ⟨0x2194, 0x2199⟩, ⟨0x21a9, 0x21aa⟩,
    ⟨0x231a, 0x231b⟩, ⟨0x2328, 0x2328⟩, ⟨0x23cf, 0x23cf⟩, ⟨0x23e9, 0x23f3⟩, ⟨0x23f8, 0x23fa⟩,
    ⟨0x24c2, 0x24c2⟩, ⟨0x25aa, 0x25ab⟩, ⟨0x25b6, 0x25b6⟩, ⟨0x25c0, 0x25c0⟩, ⟨0x25fb, 0x25fe⟩,
    ⟨0x2600, 0x2604⟩, ⟨0x260e, 0x260e⟩, ⟨0x2611, 0x2611⟩, ⟨0x2614, 0x2615⟩, ⟨0x2618, 0x2618⟩,
    ⟨0x261d, 0x261d⟩, ⟨0x2620, 0x2620⟩, ⟨0x2622, 0x2623⟩, ⟨0x2626, 0x2626⟩, ⟨0x262a, 0x262a⟩,
    ⟨0x262e, 0x262f⟩, ⟨0x2638, 0x263a⟩, ⟨0x2640, 0x2640⟩, ⟨0x2642, 0x2642⟩, ⟨0x2648, 0x2653⟩,
    ⟨0x265f, 0x2660⟩, ⟨0x2663, 0x2663⟩, ⟨0x2665, 0x2666⟩, ⟨0x2668, 0x2668⟩, ⟨0x267b, 0x267b⟩,
    ⟨0x267e, 0x267f⟩, ⟨0x2692, 0x2697⟩, ⟨0x2699, 0x2699⟩, ⟨0x269b, 0x269c⟩, ⟨0x26a0, 0x26a1⟩,
    ⟨0x26a7, 0x26a7⟩, ⟨0x26aa, 0x26ab⟩, ⟨0x26b0, 0x26b1⟩, ⟨0x26bd, 0x26be⟩, ⟨0x26c4, 0x26c5⟩,
    ⟨0x26c8, 0x26c8⟩, ⟨0x26ce, 0x26cf⟩, ⟨0x26d1, 0x26d1⟩, ⟨0x26d3, 0x26d4⟩, ⟨0x26e9, 0x26ea⟩,
    ⟨0x26f0, 0x26f5⟩, ⟨0x26f7, 0x26fa⟩, ⟨0x26fd, 0x26fd⟩, ⟨0x2702, 0x2702⟩, ⟨0x2705, 0x2705⟩,
    ⟨0x2708, 0x270d⟩, ⟨0x270f, 0x270f⟩, ⟨0x2712, 0x2712⟩, ⟨0x2714, 0x2714⟩, ⟨0x2716, 0x2716⟩,
    ⟨0x271d, 0x271d⟩, ⟨0x2721, 0x2721⟩, ⟨0x2728, 0x2728⟩, ⟨0x2733, 0x2734⟩, ⟨0x2744, 0x2744⟩,
    ⟨0x2747, 0x2747⟩, ⟨0x274c, 0x274c⟩, ⟨0x274e, 0x274e⟩, ⟨0x2753, 0x2755⟩, ⟨0x2757, 0x2757⟩,
    ⟨0x2763, 0x2764⟩, ⟨0x2795, 0x2797⟩, ⟨0x27a1, 0x27a1⟩, ⟨0x27b0, 0x27b0⟩, ⟨0x27bf, 0x27bf⟩,
    ⟨0x2934, 0x2935⟩, ⟨0x2b05, 0x2b07⟩, ⟨0x2b1b, 0x2b1c⟩, ⟨0x2b50, 0x2b50⟩, ⟨0x2b55, 0x2b55⟩,
    ⟨0x3030, 0x3030⟩, ⟨0x303d, 0x303d⟩, ⟨0x3297, 0x3297⟩, ⟨0x3299, 0x3299⟩, ⟨0x1f004, 0x1f004⟩,
    ⟨0x1f0cf, 0x1f0cf⟩, ⟨0x1f170, 0x1f171⟩, ⟨0x1f17e, 0x1f17f⟩, ⟨0x1f18e, 0x1f18e⟩,
    ⟨0x1f191, 0x1f19a⟩, ⟨0x1f1e6, 0x1f1ff⟩, ⟨0x1f201, 0x1f202⟩, ⟨0x1f21a, 0x1f21a⟩,
    ⟨0x1f22f, 0x1f22f⟩, ⟨0x1f232, 0x1f23a⟩, ⟨0x1f250, 0x1f251⟩, ⟨0x1f300, 0x1f321⟩,
    ⟨0x1f324, 0x1f393⟩, ⟨0x1f396, 0x1f397⟩, ⟨0x1f399, 0x1f39b⟩, ⟨0x1f39e, 0x1f3f0⟩,
    ⟨0x1f3f3, 0x1f3f5⟩, ⟨0x1f3f7, 0x1f4fd⟩, ⟨0x1f4ff, 0x1f53d⟩, ⟨0x1f549, 0x1f54e⟩,
    ⟨0x1f550, 0x1f567⟩, ⟨0x1f56f, 0x1f570⟩, ⟨0x1f573, 0x1f57a⟩, ⟨0x1f587, 0x1f587⟩,
    ⟨0x1f58a, 0x1f58d⟩, ⟨0x1f590, 0x1f590⟩, ⟨0x1f595, 0x1f596⟩, ⟨0x1f5a4, 0x1f5a5⟩,
    ⟨0x1f5a8, 0x1f5a8⟩, ⟨0x1f5b1, 0x1f5b2⟩, ⟨0x1f5bc, 0x1f5bc⟩, ⟨0x1f5c2, 0x1f5c4⟩,
    ⟨0x1f5d1, 0x1f5d3⟩, ⟨0x1f5dc, 0x1f5de⟩, ⟨0x1f5e1, 0x1f5e1⟩, ⟨0x1f5e3, 0x1f5e3⟩,
    ⟨0x1f5e8, 0x1f5e8⟩, ⟨0x1f5ef, 0x1f5ef⟩, ⟨0x1f5f3, 0x1f5f3⟩, ⟨0x1f5fa, 0x1f64f⟩,
    ⟨0x1f680, 0x1f6c5⟩, ⟨0x1f6cb, 0x1f6d2⟩, ⟨0x1f6d5, 0x1f6d7⟩, ⟨0x1f6dc, 0x1f6e5⟩,
    ⟨0x1f6e9, 0x1f6e9⟩, ⟨0x1f6eb, 0x1f6ec⟩, ⟨0x1f6f0, 0x1f6f0⟩, ⟨0x1f6f3, 0x1f6fc⟩,
    ⟨0x1f7e0, 0x1f7eb⟩, ⟨0x1f7f0, 0x1f7f0⟩, ⟨0x1f90c, 0x1f93a⟩, ⟨0x1f93c, 0x1f945⟩,
    ⟨0x1f947, 0x1f9ff⟩, ⟨0x1fa70, 0x1fa7c⟩, ⟨0x1fa80, 0x1fa89⟩, ⟨0x1fa8f, 0x1fac6⟩,
    ⟨0x1face, 0x1fadc⟩, ⟨0x1fadf, 0x1fae9⟩, ⟨0x1faf0, 0x1faf8⟩]

/-- Characters with the property Emoji_Component. -/
def emojiComponentRanges : List CodeRange :=
  [⟨0x23, 0x23⟩, ⟨0x2a, 0x2a⟩, ⟨0x30, 0x39⟩, ⟨0x200d, 0x200d⟩, ⟨0x20e3, 0x20e3⟩,
    ⟨0xfe0f, 0xfe0f⟩, ⟨0x1f1e6, 0x1f1ff⟩, ⟨0x1f3fb, 0x1f3ff⟩, ⟨0x1f9b0, 0x1f9b3⟩,
    ⟨0xe0020, 0xe007f⟩]

/-- Characters with the property Emoji_Modifier. -/
def emojiModifierRanges : List CodeRange :=
  [⟨0x1f3fb, 0x1f3ff⟩]

/-- Characters with the property Emoji_Modifier_Base. -/
def emojiModifierBaseRanges : List CodeRange :=
  [⟨0x261d, 0x261d⟩, ⟨0x26f9, 0x26f9⟩, ⟨0x270a, 0x270d⟩, ⟨0x1f385, 0x1f385⟩, ⟨0x1f3c2, 0x1f3c4⟩,
    ⟨0x1f3c7, 0x1f3c7⟩, ⟨0x1f3ca, 0x1f3cc⟩, ⟨0x1f442, 0x1f443⟩, ⟨0x1f446, 0x1f450⟩,
    ⟨0x1f466, 0x1f478⟩, ⟨0x1f47c, 0x1f47c⟩, ⟨0x1f481, 0x1f483⟩, ⟨0x1f485, 0x1f487⟩,
    ⟨0x1f48f, 0x1f48f⟩, ⟨0x1f491, 0x1f491⟩, ⟨0x1f4aa, 0x1f4aa⟩, ⟨0x1f574, 0x1f575⟩,
    ⟨0x1f57a, 0x1f57a⟩, ⟨0x1f590, 0x1f590⟩, ⟨0x1f595, 0x1f596⟩, ⟨0x1f645, 0x1f647⟩,
    ⟨0x1f64b, 0x1f64f⟩, ⟨0x1f6a3, 0x1f6a3⟩, ⟨0x1f6b4, 0x1f6b6⟩, ⟨0x1f6c0, 0x1f6c0⟩,
    ⟨0x1f6cc, 0x1f6cc⟩, ⟨0x1f90c, 0x1f90c⟩, ⟨0x1f90f, 0x1f90f⟩, ⟨0x1f918, 0x1f91f⟩,
    ⟨0x1f926, 0x1f926⟩, ⟨0x1f930, 0x1f939⟩, ⟨0x1f93c, 0x1f93e⟩, ⟨0x1f977, 0x1f977⟩,
    ⟨0x1f9b5, 0x1f9b6⟩, ⟨0x1f9b8, 0x1f9b9⟩, ⟨0x1f9bb, 0x1f9bb⟩, ⟨0x1f9cd, 0x1f9cf⟩,
    ⟨0x1f9d1, 0x1f9dd⟩, ⟨0x1fac3, 0x1fac5⟩, ⟨0x1faf0, 0x1faf8⟩]

/-- Characters with the property Emoji_Presentation. -/
def emojiPresentationRanges : List CodeRange :=
  [⟨0x231a, 0x231b⟩, ⟨0x23e9, 0x23ec⟩, ⟨0x23f0, 0x23f0⟩, ⟨0x23f3, 0x23f3⟩, ⟨0x25fd, 0x25fe⟩,
    ⟨0x2614, 0x2615⟩, ⟨0x2648, 0x2653⟩, ⟨0x267f, 0x267f⟩, ⟨0x2693, 0x2693⟩, ⟨0x26a1, 0x26a1⟩,
    ⟨0x26aa, 0x26ab⟩, ⟨0x26bd, 0x26be⟩, ⟨0x26c4, 0x26c5⟩, ⟨0x26ce, 0x26ce⟩, ⟨0x26d4, 0x26d4⟩,
    ⟨0x26ea, 0x26ea⟩, ⟨0x26f2, 0x26f3⟩, ⟨0x26f5, 0x26f5⟩, ⟨0x26fa, 0x26fa⟩, ⟨0x26fd, 0x26fd⟩,
    ⟨0x2705, 0x2705⟩, ⟨0x270a, 0x270b⟩, ⟨0x2728, 0x2728⟩, ⟨0x274c, 0x274c⟩, ⟨0x274e, 0x274e⟩,
    ⟨0x2753, 0x2755⟩, ⟨0x2757, 0x2757⟩, ⟨0x2795, 0x2797⟩, ⟨0x27b0, 0x27b0⟩, ⟨0x27bf, 0x27bf⟩,
    ⟨0x2b1b, 0x2b1c⟩, ⟨0x2b50, 0x2b50⟩, ⟨0x2b55, 0x2b55⟩, ⟨0x1f004, 0x1f004⟩, ⟨0x1f0cf, 0x1f0cf⟩,
    ⟨0x1f18e, 0x1f18e⟩, ⟨0x1f191, 0x1f19a⟩, ⟨0x1f1e6, 0x1f1ff⟩, ⟨0x1f201, 0x1f201⟩,
    ⟨0x1f21a, 0x1f21a⟩, ⟨0x1f22f, 0x1f22f⟩, ⟨0x1f232, 0x1f236⟩, ⟨0x1f238, 0x1f23a⟩,
    ⟨0x1f250, 0x1f251⟩, ⟨0x1f300, 0x1f320⟩, ⟨0x1f32d, 0x1f335⟩, ⟨0x1f337, 0x1f37c⟩,
    ⟨0x1f37e, 0x1f393⟩, ⟨0x1f3a0, 0x1f3ca⟩, ⟨0x1f3cf, 0x1f3d3⟩, ⟨0x1f3e0, 0x1f3f0⟩,
    ⟨0x1f3f4, 0x1f3f4⟩, ⟨0x1f3f8, 0x1f43e⟩, ⟨0x1f440, 0x1f440⟩, ⟨0x1f442, 0x1f4fc⟩,
    ⟨0x1f4ff, 0x1f53d⟩, ⟨0x1f54b, 0x1f54e⟩, ⟨0x1f550, 0x1f567⟩, ⟨0x1f57a, 0x1f57a⟩,
    ⟨0x1f595, 0x1f596⟩, ⟨0x1f5a4, 0x1f5a4⟩, ⟨0x1f5fb, 0x1f64f⟩, ⟨0x1f680, 0x1f6c5⟩,
    ⟨0x1f6cc, 0x1f6cc⟩, ⟨0x1f6d0, 0x1f6d2⟩, ⟨0x1f6d5, 0x1f6d7⟩, ⟨0x1f6dc, 0x1f6df⟩,
    ⟨0x1f6eb, 0x1f6ec⟩, ⟨0x1f6f4, 0x1f6fc⟩, ⟨0x1f7e0, 0x1f7eb⟩, ⟨0x1f7f0, 0x1f7f0⟩,
    ⟨0x1f90c, 0x1f93a⟩, ⟨0x1f93c, 0x1f945⟩, ⟨0x1f947, 0x1f9ff⟩, ⟨0x1fa70, 0x1fa7c⟩,
    ⟨0x1fa80, 0x1fa89⟩, ⟨0x1fa8f, 0x1fac6⟩, ⟨0x1face, 0x1fadc⟩, ⟨0x1fadf, 0x1fae9⟩,
    ⟨0x1faf0, 0x1faf8⟩]

/-- Characters with the property Extended_Pictographic. -/
def extendedPictographicRanges : List CodeRange :=
  [⟨0xa9, 0xa9⟩, ⟨0xae, 0xae⟩, ⟨0x203c, 0x203c⟩, ⟨0x2049, 0x2049⟩, ⟨0x2122, 0x2122⟩,
    ⟨0x2139, 0x2139⟩, ⟨0x2194, 0x2199⟩, ⟨0x21a9, 0x21aa⟩, ⟨0x231a, 0x231b⟩, ⟨0x2328, 0x2328⟩,
    ⟨0x2388, 0x2388⟩, ⟨0x23cf, 0x23cf⟩, ⟨0x23e9, 0x23f3⟩, ⟨0x23f8, 0x23fa⟩, ⟨0x24c2, 0x24c2⟩,
    ⟨0x25aa, 0x25ab⟩, ⟨0x25b6, 0x25b6⟩, ⟨0x25c0, 0x25c0⟩, ⟨0x25fb, 0x25fe⟩, ⟨0x2600, 0x2605⟩,
    ⟨0x2607, 0x2612⟩, ⟨0x2614, 0x2685⟩, ⟨0x2690, 0x2705⟩, ⟨0x2708, 0x2712⟩, ⟨0x2714, 0x2714⟩,
    ⟨0x2716, 0x2716⟩, ⟨0x271d, 0x271d⟩, ⟨0x2721, 0x2721⟩, ⟨0x2728, 0x2728⟩, ⟨0x2733, 0x2734⟩,
    ⟨0x2744, 0x2744⟩, ⟨0x2747, 0x2747⟩, ⟨0x274c, 0x274c⟩, ⟨0x274e, 0x274e⟩, ⟨0x2753, 0x2755⟩,
    ⟨0x2757, 0x2757⟩, ⟨0x2763, 0x2767⟩, ⟨0x2795, 0x2797⟩, ⟨0x27a1, 0x27a1⟩, ⟨0x27b0, 0x27b0⟩,
    ⟨0x27bf, 0x27bf⟩, ⟨0x2934, 0x2935⟩, ⟨0x2b05, 0x2b07⟩, ⟨0x2b1b, 0x2b1c⟩, ⟨0x2b50, 0x2b50⟩,
    ⟨0x2b55, 0x2b55⟩, ⟨0x3030, 0x3030⟩, ⟨0x303d, 0x303d⟩, ⟨0x3297, 0x3297⟩, ⟨0x3299, 0x3299⟩,
    ⟨0x1f000, 0x1f0ff⟩, ⟨0x1f10d, 0x1f10f⟩, ⟨0x1f12f, 0x1f12f⟩, ⟨0x1f16c, 0x1f171⟩,
    ⟨0x1f17e, 0x1f17f⟩, ⟨0x1f18e, 0x1f18e⟩, ⟨0x1f191, 0x1f19a⟩, ⟨0x1f1ad, 0x1f1e5⟩,
    ⟨0x1f201, 0x1f20f⟩, ⟨0x1f21a, 0x1f21a⟩, ⟨0x1f22f, 0x1f22f⟩, ⟨0x1f232, 0x1f23a⟩,
    ⟨0x1f23c, 0x1f23f⟩, ⟨0x1f249, 0x1f3fa⟩, ⟨0x1f400, 0x1f53d⟩, ⟨0x1f546, 0x1f64f⟩,
    ⟨0x1f680, 0x1f6ff⟩, ⟨0x1f774, 0x1f77f⟩, ⟨0x1f7d5, 0x1f7ff⟩, ⟨0x1f80c, 0x1f80f⟩,
    ⟨0x1f848, 0x1f84f⟩, ⟨0x1f85a, 0x1f85f⟩, ⟨0x1f888, 0x1f88f⟩, ⟨0x1f8ae, 0x1f8ff⟩,
    ⟨0x1f90c, 0x1f93a⟩, ⟨0x1f93c, 0x1f945⟩, ⟨0x1f947, 0x1faff⟩, ⟨0x1fc00, 0x1fffd⟩]

/-- Characters with the property Extender. -/
def extenderRanges : List CodeRange :=
  [⟨0xb7, 0xb7⟩, ⟨0x2d0, 0x2d1⟩, ⟨0x640, 0x640⟩, ⟨0x7fa, 0x7fa⟩, ⟨0xa71, 0xa71⟩, ⟨0xafb, 0xafb⟩,
    ⟨0xb55, 0xb55⟩, ⟨0xe46, 0xe46⟩, ⟨0xec6, 0xec6⟩, ⟨0x180a, 0x180a⟩, ⟨0x1843, 0x1843⟩,
    ⟨0x1aa7, 0x1aa7⟩, ⟨0x1c36, 0x1c36⟩, ⟨0x1c7b, 0x1c7b⟩, ⟨0x3005, 0x3005⟩, ⟨0x3031, 0x3035⟩,
    ⟨0x309d, 0x309e⟩, ⟨0x30fc, 0x30fe⟩, ⟨0xa015, 0xa015⟩, ⟨0xa60c, 0xa60c⟩, ⟨0xa9cf, 0xa9cf⟩,
    ⟨0xa9e6, 0xa9e6⟩, ⟨0xaa70, 0xaa70⟩, ⟨0xaadd, 0xaadd⟩, ⟨0xaaf3, 0xaaf4⟩, ⟨0xff70, 0xff70⟩,
    ⟨0x10781, 0x10782⟩, ⟨0x10d4e, 0x10d4e⟩, ⟨0x10d6a, 0x10d6a⟩, ⟨0x10d6f, 0x10d6f⟩,
    ⟨0x11237, 0x11237⟩, ⟨0x1135d, 0x1135d⟩, ⟨0x113d2, 0x113d3⟩, ⟨0x115c6, 0x115c8⟩,
    ⟨0x11a98, 0x11a98⟩, ⟨0x16b42, 0x16b43⟩, ⟨0x16fe0, 0x16fe1⟩, ⟨0x16fe3, 0x16fe3⟩,
    ⟨0x1e13c, 0x1e13d⟩, ⟨0x1e5ef, 0x1e5ef⟩, ⟨0x1e944, 0x1e946⟩]

/-- Characters with the property Grapheme_Link. -/
def graphemeLinkRanges : List CodeRange :=
  [⟨0x94d, 0x94d⟩, ⟨0x9cd, 0x9cd⟩, ⟨0xa4d, 0xa4d⟩, ⟨0xacd, 0xacd⟩, ⟨0xb4d, 0xb4d⟩,
    ⟨0xbcd, 0xbcd⟩, ⟨0xc4d, 0xc4d⟩, ⟨0xccd, 0xccd⟩, ⟨0xd3b, 0xd3c⟩, ⟨0xd4d, 0xd4d⟩,
    ⟨0xdca, 0xdca⟩, ⟨0xe3a, 0xe3a⟩, ⟨0xeba, 0xeba⟩, ⟨0xf84, 0xf84⟩, ⟨0x1039, 0x103a⟩,
    ⟨0x1714, 0x1715⟩, ⟨0x1734, 0x1734⟩, ⟨0x17d2, 0x17d2⟩, ⟨0x1a60, 0x1a60⟩, ⟨0x1b44, 0x1b44⟩,
    ⟨0x1baa, 0x1bab⟩, ⟨0x1bf2, 0x1bf3⟩, ⟨0x2d7f, 0x2d7f⟩, ⟨0xa806, 0xa806⟩, ⟨0xa82c, 0xa82c⟩,
    ⟨0xa8c4, 0xa8c4⟩, ⟨0xa953, 0xa953⟩, ⟨0xa9c0, 0xa9c0⟩, ⟨0xaaf6, 0xaaf6⟩, ⟨0xabed, 0xabed⟩,
    ⟨0x10a3f, 0x10a3f⟩, ⟨0x11046, 0x11046⟩, ⟨0x11070, 0x11070⟩, ⟨0x1107f, 0x1107f⟩,
    ⟨0x110b9, 0x110b9⟩, ⟨0x11133, 0x11134⟩, ⟨0x111c0, 0x111c0⟩, ⟨0x11235, 0x11235⟩,
    ⟨0x112ea, 0x112ea⟩, ⟨0x1134d, 0x1134d⟩, ⟨0x113ce, 0x113d0⟩, ⟨0x11442, 0x11442⟩,
    ⟨0x114c2, 0x114c2⟩, ⟨0x115bf, 0x115bf⟩, ⟨0x1163f, 0x1163f⟩, ⟨0x116b6, 0x116b6⟩,
    ⟨0x1172b, 0x1172b⟩, ⟨0x11839, 0x11839⟩, ⟨0x1193d, 0x1193e⟩, ⟨0x119e0, 0x119e0⟩,
    ⟨0x11a34, 0x11a34⟩, ⟨0x11a47, 0x11a47⟩, ⟨0x11a99, 0x11a99⟩, ⟨0x11c3f, 0x11c3f⟩,
    ⟨0x11d44, 0x11d45⟩, ⟨0x11d97, 0x11d97⟩, ⟨0x11f41, 0x11f42⟩, ⟨0x1612f, 0x1612f⟩]

/-- Characters with the property Hex_Digit. -/
def hexDigitRanges : List CodeRange :=
  [⟨0x30, 0x39⟩, ⟨0x41, 0x46⟩, ⟨0x61, 0x66⟩, ⟨0xff10, 0xff19⟩, ⟨0xff21, 0xff26⟩, ⟨0xff41, 0xff46⟩]

/-- Characters with the property Hyphen. -/
def hyphenRanges : List CodeRange :=
  [⟨0x2d, 0x2d⟩, ⟨0xad, 0xad⟩, ⟨0x58a, 0x58a⟩, ⟨0x1806, 0x1806⟩, ⟨0x2010, 0x2011⟩,
    ⟨0x2e17, 0x2e17⟩, ⟨0x30fb, 0x30fb⟩, ⟨0xfe63, 0xfe63⟩, ⟨0xff0d, 0xff0d⟩, ⟨0xff65, 0xff65⟩]

/-- Characters with the property ID_Compat_Math_Continue. -/
def idCompatMathContinueRanges : List CodeRange :=
  [⟨0xb2, 0xb3⟩, ⟨0xb9, 0xb9⟩, ⟨0x2070, 0x2070⟩, ⟨0x2074, 0x207e⟩, ⟨0x2080, 0x208e⟩,
    ⟨0x2202, 0x2202⟩, ⟨0x2207, 0x2207⟩, ⟨0x221e, 0x221e⟩, ⟨0x1d6c1, 0x1d6c1⟩, ⟨0x1d6db, 0x1d6db⟩,
    ⟨0x1d6fb, 0x1d6fb⟩, ⟨0x1d715, 0x1d715⟩, ⟨0x1d735, 0x1d735⟩, ⟨0x1d74f, 0x1d74f⟩,
    ⟨0x1d76f, 0x1d76f⟩, ⟨0x1d789, 0x1d789⟩, ⟨0x1d7a9, 0x1d7a9⟩, ⟨0x1d7c3, 0x1d7c3⟩]

/-- Characters with the property ID_Compat_Math_Start. -/
def idCompatMathStartRanges : List CodeRange :=
  [⟨0x2202, 0x2202⟩, ⟨0x2207, 0x2207⟩, ⟨0x221e, 0x221e⟩, ⟨0x1d6c1, 0x1d6c1⟩, ⟨0x1d6db, 0x1d6db⟩,
    ⟨0x1d6fb, 0x1d6fb⟩, ⟨0x1d715, 0x1d715⟩, ⟨0x1d735, 0x1d735⟩, ⟨0x1d74f, 0x1d74f⟩,
    ⟨0x1d76f, 0x1d76f⟩, ⟨0x1d789, 0x1d789⟩, ⟨0x1d7a9, 0x1d7a9⟩, ⟨0x1d7c3, 0x1d7c3⟩]

/-- Characters with the property IDS_Binary_Operator. -/
def idsBinaryOperatorRanges : List CodeRange :=
  [⟨0x2ff0, 0x2ff1⟩, ⟨0x2ff4, 0x2ffd⟩, ⟨0x31ef, 0x31ef⟩]

/-- Characters with the property IDS_Trinary_Operator. -/
def idsTrinaryOperatorRanges : List CodeRange :=
  [⟨0x2ff2, 0x2ff3⟩]

/-- Characters with the property IDS_Unary_Operator. -/
def idsUnaryOperatorRanges : List CodeRange :=
  [⟨0x2ffe, 0x2fff⟩]

/-- Characters with the property Ideographic. -/
def ideographicRanges : List CodeRange :=
  [⟨0x3006, 0x3007⟩, ⟨0x3021, 0x3029⟩, ⟨0x3038, 0x303a⟩, ⟨0x3400, 0x4dbf⟩, ⟨0x4e00, 0x9fff⟩,
    ⟨0xf900, 0xfa6d⟩, ⟨0xfa70, 0xfad9⟩, ⟨0x16fe4, 0x16fe4⟩, ⟨0x17000, 0x187f7⟩,
    ⟨0x18800, 0x18cd5⟩, ⟨0x18cff, 0x18d08⟩, ⟨0x1b170, 0x1b2fb⟩, ⟨0x20000, 0x2a6df⟩,
    ⟨0x2a700, 0x2b739⟩, ⟨0x2b740, 0x2b81d⟩, ⟨0x2b820, 0x2cea1⟩, ⟨0x2ceb0, 0x2ebe0⟩,
    ⟨0x2ebf0, 0x2ee5d⟩, ⟨0x2f800, 0x2fa1d⟩, ⟨0x30000, 0x3134a⟩, ⟨0x31350, 0x323af⟩]

/-- Characters with the property Join_Control. -/
def joinControlRanges : List CodeRange :=
  [⟨0x200c, 0x200d⟩]

/-- Characters with the property Logical_Order_Exception. -/
def logicalOrderExceptionRanges : List CodeRange :=
  [⟨0xe40, 0xe44⟩, ⟨0xec0, 0xec4⟩, ⟨0x19b5, 0x19b7⟩, ⟨0x19ba, 0x19ba⟩, ⟨0xaab5, 0xaab6⟩,
    ⟨0xaab9, 0xaab9⟩, ⟨0xaabb, 0xaabc⟩]

/-- Characters with the property Modifier_Combining_Mark. -/
def modifierCombiningMarkRanges : List CodeRange :=
  [⟨0x654, 0x655⟩, ⟨0x658, 0x658⟩, ⟨0x6dc, 0x6dc⟩, ⟨0x6e3, 0x6e3⟩, ⟨0x6e7, 0x6e8⟩,
    ⟨0x8ca, 0x8cb⟩, ⟨0x8cd, 0x8cf⟩, ⟨0x8d3, 0x8d3⟩, ⟨0x8f3, 0x8f3⟩]

/-- Characters with the property Noncharacter_Code_Point. -/
def noncharacterCodePointRanges : List CodeRange :=
  [⟨0xfdd0, 0xfdef⟩, ⟨0xfffe, 0xffff⟩, ⟨0x1fffe, 0x1ffff⟩, ⟨0x2fffe, 0x2ffff⟩,
    ⟨0x3fffe, 0x3ffff⟩, ⟨0x4fffe, 0x4ffff⟩, ⟨0x5fffe, 0x5ffff⟩, ⟨0x6fffe, 0x6ffff⟩,
    ⟨0x7fffe, 0x7ffff⟩, ⟨0x8fffe, 0x8ffff⟩, ⟨0x9fffe, 0x9ffff⟩, ⟨0xafffe, 0xaffff⟩,
    ⟨0xbfffe, 0xbffff⟩, ⟨0xcfffe, 0xcffff⟩, ⟨0xdfffe, 0xdffff⟩, ⟨0xefffe, 0xeffff⟩,
    ⟨0xffffe, 0xfffff⟩, ⟨0x10fffe, 0x10ffff⟩]

/-- Characters with the property Other_Alphabetic. -/
def otherAlphabeticRanges : List CodeRange :=
  [⟨0x345, 0x345⟩, ⟨0x363, 0x36f⟩, ⟨0x5b0, 0x5bd⟩, ⟨0x5bf, 0x5bf⟩, ⟨0x5c1, 0x5c2⟩,
    ⟨0x5c4, 0x5c5⟩, ⟨0x5c7, 0x5c7⟩, ⟨0x610, 0x61a⟩, ⟨0x64b, 0x657⟩, ⟨0x659, 0x65f⟩,
    ⟨0x670, 0x670⟩, ⟨0x6d6, 0x6dc⟩, ⟨0x6e1, 0x6e4⟩, ⟨0x6e7, 0x6e8⟩, ⟨0x6ed, 0x6ed⟩,
    ⟨0x711, 0x711⟩, ⟨0x730, 0x73f⟩, ⟨0x7a6, 0x7b0⟩, ⟨0x816, 0x817⟩, ⟨0x81b, 0x823⟩,
    ⟨0x825, 0x827⟩, ⟨0x829, 0x82c⟩, ⟨0x897, 0x897⟩, ⟨0x8d4, 0x8df⟩, ⟨0x8e3, 0x8e9⟩,
    ⟨0x8f0, 0x903⟩, ⟨0x93a, 0x93b⟩, ⟨0x93e, 0x94c⟩, ⟨0x94e, 0x94f⟩, ⟨0x955, 0x957⟩,
    ⟨0x962, 0x963⟩, ⟨0x981, 0x983⟩, ⟨0x9be, 0x9c4⟩, ⟨0x9c7, 0x9c8⟩, ⟨0x9cb, 0x9cc⟩,
    ⟨0x9d7, 0x9d7⟩, ⟨0x9e2, 0x9e3⟩, ⟨0xa01, 0xa03⟩, ⟨0xa3e, 0xa42⟩, ⟨0xa47, 0xa48⟩,
    ⟨0xa4b, 0xa4c⟩, ⟨0xa51, 0xa51⟩, ⟨0xa70, 0xa71⟩, ⟨0xa75, 0xa75⟩, ⟨0xa81, 0xa83⟩,
    ⟨0xabe, 0xac5⟩, ⟨0xac7, 0xac9⟩, ⟨0xacb, 0xacc⟩, ⟨0xae2, 0xae3⟩, ⟨0xafa, 0xafc⟩,
    ⟨0xb01, 0xb03⟩, ⟨0xb3e, 0xb44⟩, ⟨0xb47, 0xb48⟩, ⟨0xb4b, 0xb4c⟩, ⟨0xb56, 0xb57⟩,
    ⟨0xb62, 0xb63⟩, ⟨0xb82, 0xb82⟩, ⟨0xbbe, 0xbc2⟩, ⟨0xbc6, 0xbc8⟩, ⟨0xbca, 0xbcc⟩,
    ⟨0xbd7, 0xbd7⟩, ⟨0xc00, 0xc04⟩, ⟨0xc3e, 0xc44⟩, ⟨0xc46, 0xc48⟩, ⟨0xc4a, 0xc4c⟩,
    ⟨0xc55, 0xc56⟩, ⟨0xc62, 0xc63⟩, ⟨0xc81, 0xc83⟩, ⟨0xcbe, 0xcc4⟩, ⟨0xcc6, 0xcc8⟩,
    ⟨0xcca, 0xccc⟩, ⟨0xcd5, 0xcd6⟩, ⟨0xce2, 0xce3⟩, ⟨0xcf3, 0xcf3⟩, ⟨0xd00, 0xd03⟩,
    ⟨0xd3e, 0xd44⟩, ⟨0xd46, 0xd48⟩, ⟨0xd4a, 0xd4c⟩, ⟨0xd57, 0xd57⟩, ⟨0xd62, 0xd63⟩,
    ⟨0xd81, 0xd83⟩, ⟨0xdcf, 0xdd4⟩, ⟨0xdd6, 0xdd6⟩, ⟨0xdd8, 0xddf⟩, ⟨0xdf2, 0xdf3⟩,
    ⟨0xe31, 0xe31⟩, ⟨0xe34, 0xe3a⟩, ⟨0xe4d, 0xe4d⟩, ⟨0xeb1, 0xeb1⟩, ⟨0xeb4, 0xeb9⟩,
    ⟨0xebb, 0xebc⟩, ⟨0xecd, 0xecd⟩, ⟨0xf71, 0xf83⟩, ⟨0xf8d, 0xf97⟩, ⟨0xf99, 0xfbc⟩,
    ⟨0x102b, 0x1036⟩, ⟨0x1038, 0x1038⟩, ⟨0x103b, 0x103e⟩, ⟨0x1056, 0x1059⟩, ⟨0x105e, 0x1060⟩,
    ⟨0x1062, 0x1064⟩, ⟨0x1067, 0x106d⟩, ⟨0x1071, 0x1074⟩, ⟨0x1082, 0x108d⟩, ⟨0x108f, 0x108f⟩,
    ⟨0x109a, 0x109d⟩, ⟨0x1712, 0x1713⟩, ⟨0x1732, 0x1733⟩, ⟨0x1752, 0x1753⟩, ⟨0x1772, 0x1773⟩,
    ⟨0x17b6, 0x17c8⟩, ⟨0x1885, 0x1886⟩, ⟨0x18a9, 0x18a9⟩, ⟨0x1920, 0x192b⟩, ⟨0x1930, 0x1938⟩,
    ⟨0x1a17, 0x1a1b⟩, ⟨0x1a55, 0x1a5e⟩, ⟨0x1a61, 0x1a74⟩, ⟨0x1abf, 0x1ac0⟩, ⟨0x1acc, 0x1ace⟩,
    ⟨0x1b00, 0x1b04⟩, ⟨0x1b35, 0x1b43⟩, ⟨0x1b80, 0x1b82⟩, ⟨0x1ba1, 0x1ba9⟩, ⟨0x1bac, 0x1bad⟩,
    ⟨0x1be7, 0x1bf1⟩, ⟨0x1c24, 0x1c36⟩, ⟨0x1dd3, 0x1df4⟩, ⟨0x24b6, 0x24e9⟩, ⟨0x2de0, 0x2dff⟩,
    ⟨0xa674, 0xa67b⟩, ⟨0xa69e, 0xa69f⟩, ⟨0xa802, 0xa802⟩, ⟨0xa80b, 0xa80b⟩, ⟨0xa823, 0xa827⟩,
    ⟨0xa880, 0xa881⟩, ⟨0xa8b4, 0xa8c3⟩, ⟨0xa8c5, 0xa8c5⟩, ⟨0xa8ff, 0xa8ff⟩, ⟨0xa926, 0xa92a⟩,
    ⟨0xa947, 0xa952⟩, ⟨0xa980, 0xa983⟩, ⟨0xa9b4, 0xa9bf⟩, ⟨0xa9e5, 0xa9e5⟩, ⟨0xaa29, 0xaa36⟩,
    ⟨0xaa43, 0xaa43⟩, ⟨0xaa4c, 0xaa4d⟩, ⟨0xaa7b, 0xaa7d⟩, ⟨0xaab0, 0xaab0⟩, ⟨0xaab2, 0xaab4⟩,
    ⟨0xaab7, 0xaab8⟩, ⟨0xaabe, 0xaabe⟩, ⟨0xaaeb, 0xaaef⟩, ⟨0xaaf5, 0xaaf5⟩, ⟨0xabe3, 0xabea⟩,
    ⟨0xfb1e, 0xfb1e⟩, ⟨0x10376, 0x1037a⟩, ⟨0x10a01, 0x10a03⟩, ⟨0x10a05, 0x10a06⟩,
    ⟨0x10a0c, 0x10a0f⟩, ⟨0x10d24, 0x10d27⟩, ⟨0x10d69, 0x10d69⟩, ⟨0x10eab, 0x10eac⟩,
    ⟨0x10efc, 0x10efc⟩, ⟨0x11000, 0x11002⟩, ⟨0x11038, 0x11045⟩, ⟨0x11073, 0x11074⟩,
    ⟨0x11080, 0x11082⟩, ⟨0x110b0, 0x110b8⟩, ⟨0x110c2, 0x110c2⟩, ⟨0x11100, 0x11102⟩,
    ⟨0x11127, 0x11132⟩, ⟨0x11145, 0x11146⟩, ⟨0x11180, 0x11182⟩, ⟨0x111b3, 0x111bf⟩,
    ⟨0x111ce, 0x111cf⟩, ⟨0x1122c, 0x11234⟩, ⟨0x11237, 0x11237⟩, ⟨0x1123e, 0x1123e⟩,
    ⟨0x11241, 0x11241⟩, ⟨0x112df, 0x112e8⟩, ⟨0x11300, 0x11303⟩, ⟨0x1133e, 0x11344⟩,
    ⟨0x11347, 0x11348⟩, ⟨0x1134b, 0x1134c⟩, ⟨0x11357, 0x11357⟩, ⟨0x11362, 0x11363⟩,
    ⟨0x113b8, 0x113c0⟩, ⟨0x113c2, 0x113c2⟩, ⟨0x113c5, 0x113c5⟩, ⟨0x113c7, 0x113ca⟩,
    ⟨0x113cc, 0x113cd⟩, ⟨0x11435, 0x11441⟩, ⟨0x11443, 0x11445⟩, ⟨0x114b0, 0x114c1⟩,
    ⟨0x115af, 0x115b5⟩, ⟨0x115b8, 0x115be⟩, ⟨0x115dc, 0x115dd⟩, ⟨0x11630, 0x1163e⟩,
    ⟨0x11640, 0x11640⟩, ⟨0x116ab, 0x116b5⟩, ⟨0x1171d, 0x1172a⟩, ⟨0x1182c, 0x11838⟩,
    ⟨0x11930, 0x11935⟩, ⟨0x11937, 0x11938⟩, ⟨0x1193b, 0x1193c⟩, ⟨0x11940, 0x11940⟩,
    ⟨0x11942, 0x11942⟩, ⟨0x119d1, 0x119d7⟩, ⟨0x119da, 0x119df⟩, ⟨0x119e4, 0x119e4⟩,
    ⟨0x11a01, 0x11a0a⟩, ⟨0x11a35, 0x11a39⟩, ⟨0x11a3b, 0x11a3e⟩, ⟨0x11a51, 0x11a5b⟩,
    ⟨0x11a8a, 0x11a97⟩, ⟨0x11c2f, 0x11c36⟩, ⟨0x11c38, 0x11c3e⟩, ⟨0x11c92, 0x11ca7⟩,
    ⟨0x11ca9, 0x11cb6⟩, ⟨0x11d31, 0x11d36⟩, ⟨0x11d3a, 0x11d3a⟩, ⟨0x11d3c, 0x11d3d⟩,
    ⟨0x11d3f, 0x11d41⟩, ⟨0x11d43, 0x11d43⟩, ⟨0x11d47, 0x11d47⟩, ⟨0x11d8a, 0x11d8e⟩,
    ⟨0x11d90, 0x11d91⟩, ⟨0x11d93, 0x11d96⟩, ⟨0x11ef3, 0x11ef6⟩, ⟨0x11f00, 0x11f01⟩,
    ⟨0x11f03, 0x11f03⟩, ⟨0x11f34, 0x11f3a⟩, ⟨0x11f3e, 0x11f40⟩, ⟨0x1611e, 0x1612e⟩,
    ⟨0x16f4f, 0x16f4f⟩, ⟨0x16f51, 0x16f87⟩, ⟨0x16f8f, 0x16f92⟩, ⟨0x16ff0, 0x16ff1⟩,
    ⟨0x1bc9e, 0x1bc9e⟩, ⟨0x1e000, 0x1e006⟩, ⟨0x1e008, 0x1e018⟩, ⟨0x1e01b, 0x1e021⟩,
    ⟨0x1e023, 0x1e024⟩, ⟨0x1e026, 0x1e02a⟩, ⟨0x1e08f, 0x1e08f⟩, ⟨0x1e947, 0x1e947⟩,
    ⟨0x1f130, 0x1f149⟩, ⟨0x1f150, 0x1f169⟩, ⟨0x1f170, 0x1f189⟩]

/-- Characters with the property Other_Default_Ignorable_Code_Point. -/
def otherDefaultIgnorableCodePointRanges : List CodeRange :=
  [⟨0x34f, 0x34f⟩, ⟨0x115f, 0x1160⟩, ⟨0x17b4, 0x17b5⟩, ⟨0x2065, 0x2065⟩, ⟨0x3164, 0x3164⟩,
    ⟨0xffa0, 0xffa0⟩, ⟨0xfff0, 0xfff8⟩, ⟨0xe0000, 0xe0000⟩, ⟨0xe0002, 0xe001f⟩,
    ⟨0xe0080, 0xe00ff⟩, ⟨0xe01f0, 0xe0fff⟩]

/-- Characters with the property Other_Grapheme_Extend. -/
def otherGraphemeExtendRanges : List CodeRange :=
  [⟨0x9be, 0x9be⟩, ⟨0x9d7, 0x9d7⟩, ⟨0xb3e, 0xb3e⟩, ⟨0xb57, 0xb57⟩, ⟨0xbbe, 0xbbe⟩,
    ⟨0xbd7, 0xbd7⟩, ⟨0xcc0, 0xcc0⟩, ⟨0xcc2, 0xcc2⟩, ⟨0xcc7, 0xcc8⟩, ⟨0xcca, 0xccb⟩,
    ⟨0xcd5, 0xcd6⟩, ⟨0xd3e, 0xd3e⟩, ⟨0xd57, 0xd57⟩, ⟨0xdcf, 0xdcf⟩, ⟨0xddf, 0xddf⟩,
    ⟨0x1715, 0x1715⟩, ⟨0x1734, 0x1734⟩, ⟨0x1b35, 0x1b35⟩, ⟨0x1b3b, 0x1b3b⟩, ⟨0x1b3d, 0x1b3d⟩,
    ⟨0x1b43, 0x1b44⟩, ⟨0x1baa, 0x1baa⟩, ⟨0x1bf2, 0x1bf3⟩, ⟨0x200c, 0x200c⟩, ⟨0x302e, 0x302f⟩,
    ⟨0xa953, 0xa953⟩, ⟨0xa9c0, 0xa9c0⟩, ⟨0xff9e, 0xff9f⟩, ⟨0x111c0, 0x111c0⟩, ⟨0x11235, 0x11235⟩,
    ⟨0x1133e, 0x1133e⟩, ⟨0x1134d, 0x1134d⟩, ⟨0x11357, 0x11357⟩, ⟨0x113b8, 0x113b8⟩,
    ⟨0x113c2, 0x113c2⟩, ⟨0x113c5, 0x113c5⟩, ⟨0x113c7, 0x113c9⟩, ⟨0x113cf, 0x113cf⟩,
    ⟨0x114b0, 0x114b0⟩, ⟨0x114bd, 0x114bd⟩, ⟨0x115af, 0x115af⟩, ⟨0x116b6, 0x116b6⟩,
    ⟨0x11930, 0x11930⟩, ⟨0x1193d, 0x1193d⟩, ⟨0x11f41, 0x11f41⟩, ⟨0x16ff0, 0x16ff1⟩,
    ⟨0x1d165, 0x1d166⟩, ⟨0x1d16d, 0x1d172⟩, ⟨0xe0020, 0xe007f⟩]

/-- Characters with the property Other_ID_Continue. -/
def otherIdContinueRanges : List CodeRange :=
  [⟨0xb7, 0xb7⟩, ⟨0x387, 0x387⟩, ⟨0x1369, 0x1371⟩, ⟨0x19da, 0x19da⟩, ⟨0x200c, 0x200d⟩,
    ⟨0x30fb, 0x30fb⟩, ⟨0xff65, 0xff65⟩]

/-- Characters with the property Other_ID_Start. -/
def otherIdStartRanges : List CodeRange :=
  [⟨0x1885, 0x1886⟩, ⟨0x2118, 0x2118⟩, ⟨0x212e, 0x212e⟩, ⟨0x309b, 0x309c⟩]

/-- Characters with the property Other_Lowercase. -/
def otherLowercaseRanges : List CodeRange :=
  [⟨0xaa, 0xaa⟩, ⟨0xba, 0xba⟩, ⟨0x2b0, 0x2b8⟩, ⟨0x2c0, 0x2c1⟩, ⟨0x2e0, 0x2e4⟩, ⟨0x345, 0x345⟩,
    ⟨0x37a, 0x37a⟩, ⟨0x10fc, 0x10fc⟩, ⟨0x1d2c, 0x1d6a⟩, ⟨0x1d78, 0x1d78⟩, ⟨0x1d9b, 0x1dbf⟩,
    ⟨0x2071, 0x2071⟩, ⟨0x207f, 0x207f⟩, ⟨0x2090, 0x209c⟩, ⟨0x2170, 0x217f⟩, ⟨0x24d0, 0x24e9⟩,
    ⟨0x2c7c, 0x2c7d⟩, ⟨0xa69c, 0xa69d⟩, ⟨0xa770, 0xa770⟩, ⟨0xa7f2, 0xa7f4⟩, ⟨0xa7f8, 0xa7f9⟩,
    ⟨0xab5c, 0xab5f⟩, ⟨0xab69, 0xab69⟩, ⟨0x10780, 0x10780⟩, ⟨0x10783, 0x10785⟩,
    ⟨0x10787, 0x107b0⟩, ⟨0x107b2, 0x107ba⟩, ⟨0x1e030, 0x1e06d⟩]

/-- Characters with the property Other_Math. -/
def otherMathRanges : List CodeRange :=
  [⟨0x5e, 0x5e⟩, ⟨0x3d0, 0x3d2⟩, ⟨0x3d5, 0x3d5⟩, ⟨0x3f0, 0x3f1⟩, ⟨0x3f4, 0x3f5⟩,
    ⟨0x2016, 0x2016⟩, ⟨0x2032, 0x2034⟩, ⟨0x2040, 0x2040⟩, ⟨0x2061, 0x2064⟩, ⟨0x207d, 0x207e⟩,
    ⟨0x208d, 0x208e⟩, ⟨0x20d0, 0x20dc⟩, ⟨0x20e1, 0x20e1⟩, ⟨0x20e5, 0x20e6⟩, ⟨0x20eb, 0x20ef⟩,
    ⟨0x2102, 0x2102⟩, ⟨0x2107, 0x2107⟩, ⟨0x210a, 0x2113⟩, ⟨0x2115, 0x2115⟩, ⟨0x2119, 0x211d⟩,
    ⟨0x2124, 0x2124⟩, ⟨0x2128, 0x2129⟩, ⟨0x212c, 0x212d⟩, ⟨0x212f, 0x2131⟩, ⟨0x2133, 0x2138⟩,
    ⟨0x213c, 0x213f⟩, ⟨0x2145, 0x2149⟩, ⟨0x2195, 0x2199⟩, ⟨0x219c, 0x219f⟩, ⟨0x21a1, 0x21a2⟩,
    ⟨0x21a4, 0x21a5⟩, ⟨0x21a7, 0x21a7⟩, ⟨0x21a9, 0x21ad⟩, ⟨0x21b0, 0x21b1⟩, ⟨0x21b6, 0x21b7⟩,
    ⟨0x21bc, 0x21cd⟩, ⟨0x21d0, 0x21d1⟩, ⟨0x21d3, 0x21d3⟩, ⟨0x21d5, 0x21db⟩, ⟨0x21dd, 0x21dd⟩,
    ⟨0x21e4, 0x21e5⟩, ⟨0x2308, 0x230b⟩, ⟨0x23b4, 0x23b5⟩, ⟨0x23b7, 0x23b7⟩, ⟨0x23d0, 0x23d0⟩,
    ⟨0x23e2, 0x23e2⟩, ⟨0x25a0, 0x25a1⟩, ⟨0x25ae, 0x25b6⟩, ⟨0x25bc, 0x25c0⟩, ⟨0x25c6, 0x25c7⟩,
    ⟨0x25ca, 0x25cb⟩, ⟨0x25cf, 0x25d3⟩, ⟨0x25e2, 0x25e2⟩, ⟨0x25e4, 0x25e4⟩, ⟨0x25e7, 0x25ec⟩,
    ⟨0x2605, 0x2606⟩, ⟨0x2640, 0x2640⟩, ⟨0x2642, 0x2642⟩, ⟨0x2660, 0x2663⟩, ⟨0x266d, 0x266e⟩,
    ⟨0x27c5, 0x27c6⟩, ⟨0x27e6, 0x27ef⟩, ⟨0x2983, 0x2998⟩, ⟨0x29d8, 0x29db⟩, ⟨0x29fc, 0x29fd⟩,
    ⟨0xfe61, 0xfe61⟩, ⟨0xfe63, 0xfe63⟩, ⟨0xfe68, 0xfe68⟩, ⟨0xff3c, 0xff3c⟩, ⟨0xff3e, 0xff3e⟩,
    ⟨0x1d400, 0x1d454⟩, ⟨0x1d456, 0x1d49c⟩, ⟨0x1d49e, 0x1d49f⟩, ⟨0x1d4a2, 0x1d4a2⟩,
    ⟨0x1d4a5, 0x1d4a6⟩, ⟨0x1d4a9, 0x1d4ac⟩, ⟨0x1d4ae, 0x1d4b9⟩, ⟨0x1d4bb, 0x1d4bb⟩,
    ⟨0x1d4bd, 0x1d4c3⟩, ⟨0x1d4c5, 0x1d505⟩, ⟨0x1d507, 0x1d50a⟩, ⟨0x1d50d, 0x1d514⟩,
    ⟨0x1d516, 0x1d51c⟩, ⟨0x1d51e, 0x1d539⟩, ⟨0x1d53b, 0x1d53e⟩, ⟨0x1d540, 0x1d544⟩,
    ⟨0x1d546, 0x1d546⟩, ⟨0x1d54a, 0x1d550⟩, ⟨0x1d552, 0x1d6a5⟩, ⟨0x1d6a8, 0x1d6c0⟩,
    ⟨0x1d6c2, 0x1d6da⟩, ⟨0x1d6dc, 0x1d6fa⟩, ⟨0x1d6fc, 0x1d714⟩, ⟨0x1d716, 0x1d734⟩,
    ⟨0x1d736, 0x1d74e⟩, ⟨0x1d750, 0x1d76e⟩, ⟨0x1d770, 0x1d788⟩, ⟨0x1d78a, 0x1d7a8⟩,
    ⟨0x1d7aa, 0x1d7c2⟩, ⟨0x1d7c4, 0x1d7cb⟩, ⟨0x1d7ce, 0x1d7ff⟩, ⟨0x1ee00, 0x1ee03⟩,
    ⟨0x1ee05, 0x1ee1f⟩, ⟨0x1ee21, 0x1ee22⟩, ⟨0x1ee24, 0x1ee24⟩, ⟨0x1ee27, 0x1ee27⟩,
    ⟨0x1ee29, 0x1ee32⟩, ⟨0x1ee34, 0x1ee37⟩, ⟨0x1ee39, 0x1ee39⟩, ⟨0x1ee3b, 0x1ee3b⟩,
    ⟨0x1ee42, 0x1ee42⟩, ⟨0x1ee47, 0x1ee47⟩, ⟨0x1ee49, 0x1ee49⟩, ⟨0x1ee4b, 0x1ee4b⟩,
    ⟨0x1ee4d, 0x1ee4f⟩, ⟨0x1ee51, 0x1ee52⟩, ⟨0x1ee54, 0x1ee54⟩, ⟨0x1ee57, 0x1ee57⟩,
    ⟨0x1ee59, 0x1ee59⟩, ⟨0x1ee5b, 0x1ee5b⟩, ⟨0x1ee5d, 0x1ee5d⟩, ⟨0x1ee5f, 0x1ee5f⟩,
    ⟨0x1ee61, 0x1ee62⟩, ⟨0x1ee64, 0x1ee64⟩, ⟨0x1ee67, 0x1ee6a⟩, ⟨0x1ee6c, 0x1ee72⟩,
    ⟨0x1ee74, 0x1ee77⟩, ⟨0x1ee79, 0x1ee7c⟩, ⟨0x1ee7e, 0x1ee7e⟩, ⟨0x1ee80, 0x1ee89⟩,
    ⟨0x1ee8b, 0x1ee9b⟩, ⟨0x1eea1, 0x1eea3⟩, ⟨0x1eea5, 0x1eea9⟩, ⟨0x1eeab, 0x1eebb⟩]

/-- Characters with the property Other_Uppercase. -/
def otherUppercaseRanges : List CodeRange :=
  [⟨0x2160, 0x216f⟩, ⟨0x24b6, 0x24cf⟩, ⟨0x1f130, 0x1f149⟩, ⟨0x1f150, 0x1f169⟩, ⟨0x1f170, 0x1f189⟩]

/-- Characters with the property Pattern_Syntax. -/
def patternSyntaxRanges : List CodeRange :=
  [⟨0x21, 0x2f⟩, ⟨0x3a, 0x40⟩, ⟨0x5b, 0x5e⟩, ⟨0x60, 0x60⟩, ⟨0x7b, 0x7e⟩, ⟨0xa1, 0xa7⟩,
    ⟨0xa9, 0xa9⟩, ⟨0xab, 0xac⟩, ⟨0xae, 0xae⟩, ⟨0xb0, 0xb1⟩, ⟨0xb6, 0xb6⟩, ⟨0xbb, 0xbb⟩,
    ⟨0xbf, 0xbf⟩, ⟨0xd7, 0xd7⟩, ⟨0xf7, 0xf7⟩, ⟨0x2010, 0x2027⟩, ⟨0x2030, 0x203e⟩,
    ⟨0x2041, 0x2053⟩, ⟨0x2055, 0x205e⟩, ⟨0x2190, 0x245f⟩, ⟨0x2500, 0x2775⟩, ⟨0x2794, 0x2bff⟩,
    ⟨0x2e00, 0x2e7f⟩, ⟨0x3001, 0x3003⟩, ⟨0x3008, 0x3020⟩, ⟨0x3030, 0x3030⟩, ⟨0xfd3e, 0xfd3f⟩,
    ⟨0xfe45, 0xfe46⟩]

/-- Characters with the property Pattern_White_Space. -/
def patternWhiteSpaceRanges : List CodeRange :=
  [⟨0x9, 0xd⟩, ⟨0x20, 0x20⟩, ⟨0x85, 0x85⟩, ⟨0x200e, 0x200f⟩, ⟨0x2028, 0x2029⟩]

/-- Characters with the property Prepended_Concatenation_Mark. -/
def prependedConcatenationMarkRanges : List CodeRange :=
  [⟨0x600, 0x605⟩, ⟨0x6dd, 0x6dd⟩, ⟨0x70f, 0x70f⟩, ⟨0x890, 0x891⟩, ⟨0x8e2, 0x8e2⟩,
    ⟨0x110bd, 0x110bd⟩, ⟨0x110cd, 0x110cd⟩]

/-- Characters with the property Quotation_Mark. -/
def quotationMarkRanges : List CodeRange :=
  [⟨0x22, 0x22⟩, ⟨0x27, 0x27⟩, ⟨0xab, 0xab⟩, ⟨0xbb, 0xbb⟩, ⟨0x2018, 0x201f⟩, ⟨0x2039, 0x203a⟩,
    ⟨0x2e42, 0x2e42⟩, ⟨0x300c, 0x300f⟩, ⟨0x301d, 0x301f⟩, ⟨0xfe41, 0xfe44⟩, ⟨0xff02, 0xff02⟩,
    ⟨0xff07, 0xff07⟩, ⟨0xff62, 0xff63⟩]

/-- Characters with the property Radical. -/
def radicalRanges : List CodeRange :=
  [⟨0x2e80, 0x2e99⟩, ⟨0x2e9b, 0x2ef3⟩, ⟨0x2f00, 0x2fd5⟩]

/-- Characters with the property Regional_Indicator. -/
def regionalIndicatorRanges : List CodeRange :=
  [⟨0x1f1e6, 0x1f1ff⟩]

/-- Characters with the property Sentence_Terminal. -/
def sentenceTerminalRanges : List CodeRange :=
  [⟨0x21, 0x21⟩, ⟨0x2e, 0x2e⟩, ⟨0x3f, 0x3f⟩, ⟨0x589, 0x589⟩, ⟨0x61d, 0x61f⟩, ⟨0x6d4, 0x6d4⟩,
    ⟨0x700, 0x702⟩, ⟨0x7f9, 0x7f9⟩, ⟨0x837, 0x837⟩, ⟨0x839, 0x839⟩, ⟨0x83d, 0x83e⟩,
    ⟨0x964, 0x965⟩, ⟨0x104a, 0x104b⟩, ⟨0x1362, 0x1362⟩, ⟨0x1367, 0x1368⟩, ⟨0x166e, 0x166e⟩,
    ⟨0x1735, 0x1736⟩, ⟨0x17d4, 0x17d5⟩, ⟨0x1803, 0x1803⟩, ⟨0x1809, 0x1809⟩, ⟨0x1944, 0x1945⟩,
    ⟨0x1aa8, 0x1aab⟩, ⟨0x1b4e, 0x1b4f⟩, ⟨0x1b5a, 0x1b5b⟩, ⟨0x1b5e, 0x1b5f⟩, ⟨0x1b7d, 0x1b7f⟩,
    ⟨0x1c3b, 0x1c3c⟩, ⟨0x1c7e, 0x1c7f⟩, ⟨0x2024, 0x2024⟩, ⟨0x203c, 0x203d⟩, ⟨0x2047, 0x2049⟩,
    ⟨0x2cf9, 0x2cfb⟩, ⟨0x2e2e, 0x2e2e⟩, ⟨0x2e3c, 0x2e3c⟩, ⟨0x2e53, 0x2e54⟩, ⟨0x3002, 0x3002⟩,
    ⟨0xa4ff, 0xa4ff⟩, ⟨0xa60e, 0xa60f⟩, ⟨0xa6f3, 0xa6f3⟩, ⟨0xa6f7, 0xa6f7⟩, ⟨0xa876, 0xa877⟩,
    ⟨0xa8ce, 0xa8cf⟩, ⟨0xa92f, 0xa92f⟩, ⟨0xa9c8, 0xa9c9⟩, ⟨0xaa5d, 0xaa5f⟩, ⟨0xaaf0, 0xaaf1⟩,
    ⟨0xabeb, 0xabeb⟩, ⟨0xfe12, 0xfe12⟩, ⟨0xfe15, 0xfe16⟩, ⟨0xfe52, 0xfe52⟩, ⟨0xfe56, 0xfe57⟩,
    ⟨0xff01, 0xff01⟩, ⟨0xff0e, 0xff0e⟩, ⟨0xff1f, 0xff1f⟩, ⟨0xff61, 0xff61⟩, ⟨0x10a56, 0x10a57⟩,
    ⟨0x10f55, 0x10f59⟩, ⟨0x10f86, 0x10f89⟩, ⟨0x11047, 0x11048⟩, ⟨0x110be, 0x110c1⟩,
    ⟨0x11141, 0x11143⟩, ⟨0x111c5, 0x111c6⟩, ⟨0x111cd, 0x111cd⟩, ⟨0x111de, 0x111df⟩,
    ⟨0x11238, 0x11239⟩, ⟨0x1123b, 0x1123c⟩, ⟨0x112a9, 0x112a9⟩, ⟨0x113d4, 0x113d5⟩,
    ⟨0x1144b, 0x1144c⟩, ⟨0x115c2, 0x115c3⟩, ⟨0x115c9, 0x115d7⟩, ⟨0x11641, 0x11642⟩,
    ⟨0x1173c, 0x1173e⟩, ⟨0x11944, 0x11944⟩, ⟨0x11946, 0x11946⟩, ⟨0x11a42, 0x11a43⟩,
    ⟨0x11a9b, 0x11a9c⟩, ⟨0x11c41, 0x11c42⟩, ⟨0x11ef7, 0x11ef8⟩, ⟨0x11f43, 0x11f44⟩,
    ⟨0x16a6e, 0x16a6f⟩, ⟨0x16af5, 0x16af5⟩, ⟨0x16b37, 0x16b38⟩, ⟨0x16b44, 0x16b44⟩,
    ⟨0x16d6e, 0x16d6f⟩, ⟨0x16e98, 0x16e98⟩, ⟨0x1bc9f, 0x1bc9f⟩, ⟨0x1da88, 0x1da88⟩]

/-- Characters with the property Soft_Dotted. -/
def softDottedRanges : List CodeRange :=
  [⟨0x69, 0x6a⟩, ⟨0x12f, 0x12f⟩, ⟨0x249, 0x249⟩, ⟨0x268, 0x268⟩, ⟨0x29d, 0x29d⟩, ⟨0x2b2, 0x2b2⟩,
    ⟨0x3f3, 0x3f3⟩, ⟨0x456, 0x456⟩, ⟨0x458, 0x458⟩, ⟨0x1d62, 0x1d62⟩, ⟨0x1d96, 0x1d96⟩,
    ⟨0x1da4, 0x1da4⟩, ⟨0x1da8, 0x1da8⟩, ⟨0x1e2d, 0x1e2d⟩, ⟨0x1ecb, 0x1ecb⟩, ⟨0x2071, 0x2071⟩,
    ⟨0x2148, 0x2149⟩, ⟨0x2c7c, 0x2c7c⟩, ⟨0x1d422, 0x1d423⟩, ⟨0x1d456, 0x1d457⟩,
    ⟨0x1d48a, 0x1d48b⟩, ⟨0x1d4be, 0x1d4bf⟩, ⟨0x1d4f2, 0x1d4f3⟩, ⟨0x1d526, 0x1d527⟩,
    ⟨0x1d55a, 0x1d55b⟩, ⟨0x1d58e, 0x1d58f⟩, ⟨0x1d5c2, 0x1d5c3⟩, ⟨0x1d5f6, 0x1d5f7⟩,
    ⟨0x1d62a, 0x1d62b⟩, ⟨0x1d65e, 0x1d65f⟩, ⟨0x1d692, 0x1d693⟩, ⟨0x1df1a, 0x1df1a⟩,
    ⟨0x1e04c, 0x1e04d⟩, ⟨0x1e068, 0x1e068⟩]

/-- Characters with the property Terminal_Punctuation. -/
def terminalPunctuationRanges : List CodeRange :=
  [⟨0x21, 0x21⟩, ⟨0x2c, 0x2c⟩, ⟨0x2e, 0x2e⟩, ⟨0x3a, 0x3b⟩, ⟨0x3f, 0x3f⟩, ⟨0x37e, 0x37e⟩,
    ⟨0x387, 0x387⟩, ⟨0x589, 0x589⟩, ⟨0x5c3, 0x5c3⟩, ⟨0x60c, 0x60c⟩, ⟨0x61b, 0x61b⟩,
    ⟨0x61d, 0x61f⟩, ⟨0x6d4, 0x6d4⟩, ⟨0x700, 0x70a⟩, ⟨0x70c, 0x70c⟩, ⟨0x7f8, 0x7f9⟩,
    ⟨0x830, 0x835⟩, ⟨0x837, 0x83e⟩, ⟨0x85e, 0x85e⟩, ⟨0x964, 0x965⟩, ⟨0xe5a, 0xe5b⟩,
    ⟨0xf08, 0xf08⟩, ⟨0xf0d, 0xf12⟩, ⟨0x104a, 0x104b⟩, ⟨0x1361, 0x1368⟩, ⟨0x166e, 0x166e⟩,
    ⟨0x16eb, 0x16ed⟩, ⟨0x1735, 0x1736⟩, ⟨0x17d4, 0x17d6⟩, ⟨0x17da, 0x17da⟩, ⟨0x1802, 0x1805⟩,
    ⟨0x1808, 0x1809⟩, ⟨0x1944, 0x1945⟩, ⟨0x1aa8, 0x1aab⟩, ⟨0x1b4e, 0x1b4f⟩, ⟨0x1b5a, 0x1b5b⟩,
    ⟨0x1b5d, 0x1b5f⟩, ⟨0x1b7d, 0x1b7f⟩, ⟨0x1c3b, 0x1c3f⟩, ⟨0x1c7e, 0x1c7f⟩, ⟨0x2024, 0x2024⟩,
    ⟨0x203c, 0x203d⟩, ⟨0x2047, 0x2049⟩, ⟨0x2cf9, 0x2cfb⟩, ⟨0x2e2e, 0x2e2e⟩, ⟨0x2e3c, 0x2e3c⟩,
    ⟨0x2e41, 0x2e41⟩, ⟨0x2e4c, 0x2e4c⟩, ⟨0x2e4e, 0x2e4f⟩, ⟨0x2e53, 0x2e54⟩, ⟨0x3001, 0x3002⟩,
    ⟨0xa4fe, 0xa4ff⟩, ⟨0xa60d, 0xa60f⟩, ⟨0xa6f3, 0xa6f7⟩, ⟨0xa876, 0xa877⟩, ⟨0xa8ce, 0xa8cf⟩,
    ⟨0xa92f, 0xa92f⟩, ⟨0xa9c7, 0xa9c9⟩, ⟨0xaa5d, 0xaa5f⟩, ⟨0xaadf, 0xaadf⟩, ⟨0xaaf0, 0xaaf1⟩,
    ⟨0xabeb, 0xabeb⟩, ⟨0xfe12, 0xfe12⟩, ⟨0xfe15, 0xfe16⟩, ⟨0xfe50, 0xfe52⟩, ⟨0xfe54, 0xfe57⟩,
    ⟨0xff01, 0xff01⟩, ⟨0xff0c, 0xff0c⟩, ⟨0xff0e, 0xff0e⟩, ⟨0xff1a, 0xff1b⟩, ⟨0xff1f, 0xff1f⟩,
    ⟨0xff61, 0xff61⟩, ⟨0xff64, 0xff64⟩, ⟨0x1039f, 0x1039f⟩, ⟨0x103d0, 0x103d0⟩,
    ⟨0x10857, 0x10857⟩, ⟨0x1091f, 0x1091f⟩, ⟨0x10a56, 0x10a57⟩, ⟨0x10af0, 0x10af5⟩,
    ⟨0x10b3a, 0x10b3f⟩, ⟨0x10b99, 0x10b9c⟩, ⟨0x10f55, 0x10f59⟩, ⟨0x10f86, 0x10f89⟩,
    ⟨0x11047, 0x1104d⟩, ⟨0x110be, 0x110c1⟩, ⟨0x11141, 0x11143⟩, ⟨0x111c5, 0x111c6⟩,
    ⟨0x111cd, 0x111cd⟩, ⟨0x111de, 0x111df⟩, ⟨0x11238, 0x1123c⟩, ⟨0x112a9, 0x112a9⟩,
    ⟨0x113d4, 0x113d5⟩, ⟨0x1144b, 0x1144d⟩, ⟨0x1145a, 0x1145b⟩, ⟨0x115c2, 0x115c5⟩,
    ⟨0x115c9, 0x115d7⟩, ⟨0x11641, 0x11642⟩, ⟨0x1173c, 0x1173e⟩, ⟨0x11944, 0x11944⟩,
    ⟨0x11946, 0x11946⟩, ⟨0x11a42, 0x11a43⟩, ⟨0x11a9b, 0x11a9c⟩, ⟨0x11aa1, 0x11aa2⟩,
    ⟨0x11c41, 0x11c43⟩, ⟨0x11c71, 0x11c71⟩, ⟨0x11ef7, 0x11ef8⟩, ⟨0x11f43, 0x11f44⟩,
    ⟨0x12470, 0x12474⟩, ⟨0x16a6e, 0x16a6f⟩, ⟨0x16af5, 0x16af5⟩, ⟨0x16b37, 0x16b39⟩,
    ⟨0x16b44, 0x16b44⟩, ⟨0x16d6e, 0x16d6f⟩, ⟨0x16e97, 0x16e98⟩, ⟨0x1bc9f, 0x1bc9f⟩,
    ⟨0x1da87, 0x1da8a⟩]

/-- Characters with the property Unified_Ideograph. -/
def unifiedIdeographRanges : List CodeRange :=
  [⟨0x3400, 0x4dbf⟩, ⟨0x4e00, 0x9fff⟩, ⟨0xfa0e, 0xfa0f⟩, ⟨0xfa11, 0xfa11⟩, ⟨0xfa13, 0xfa14⟩,
    ⟨0xfa1f, 0xfa1f⟩, ⟨0xfa21, 0xfa21⟩, ⟨0xfa23, 0xfa24⟩, ⟨0xfa27, 0xfa29⟩, ⟨0x20000, 0x2a6df⟩,
    ⟨0x2a700, 0x2b739⟩, ⟨0x2b740, 0x2b81d⟩, ⟨0x2b820, 0x2cea1⟩, ⟨0x2ceb0, 0x2ebe0⟩,
    ⟨0x2ebf0, 0x2ee5d⟩, ⟨0x30000, 0x3134a⟩, ⟨0x31350, 0x323af⟩]

/-- Characters with the property Variation_Selector. -/
def variationSelectorRanges : List CodeRange :=
  [⟨0x180b, 0x180d⟩, ⟨0x180f, 0x180f⟩, ⟨0xfe00, 0xfe0f⟩, ⟨0xe0100, 0xe01ef⟩]

/-- Characters with the property Changes_When_Casefolded. -/
def changesWhenCasefoldedStrides : List CodeStride :=
  [⟨0x41, 0x5a, 1⟩, ⟨0xb5, 0xb5, 1⟩, ⟨0xc0, 0xd6, 1⟩, ⟨0xd8, 0xdf, 1⟩, ⟨0x100, 0x136, 2⟩,
    ⟨0x139, 0x147, 2⟩, ⟨0x149, 0x14a, 1⟩, ⟨0x14c, 0x176, 2⟩, ⟨0x178, 0x179, 1⟩, ⟨0x17b, 0x17f, 2⟩,
    ⟨0x181, 0x182, 1⟩, ⟨0x184, 0x184, 1⟩, ⟨0x186, 0x187, 1⟩, ⟨0x189, 0x18b, 1⟩, ⟨0x18e, 0x191, 1⟩,
    ⟨0x193, 0x194, 1⟩, ⟨0x196, 0x198, 1⟩, ⟨0x19c, 0x19d, 1⟩, ⟨0x19f, 0x1a0, 1⟩, ⟨0x1a2, 0x1a2, 1⟩,
    ⟨0x1a4, 0x1a4, 1⟩, ⟨0x1a6, 0x1a7, 1⟩, ⟨0x1a9, 0x1a9, 1⟩, ⟨0x1ac, 0x1ac, 1⟩, ⟨0x1ae, 0x1af, 1⟩,
    ⟨0x1b1, 0x1b3, 1⟩, ⟨0x1b5, 0x1b5, 1⟩, ⟨0x1b7, 0x1b8, 1⟩, ⟨0x1bc, 0x1bc, 1⟩, ⟨0x1c4, 0x1c5, 1⟩,
    ⟨0x1c7, 0x1c8, 1⟩, ⟨0x1ca, 0x1cb, 1⟩, ⟨0x1cd, 0x1db, 2⟩, ⟨0x1de, 0x1ee, 2⟩, ⟨0x1f1, 0x1f2, 1⟩,
    ⟨0x1f4, 0x1f4, 1⟩, ⟨0x1f6, 0x1f8, 1⟩, ⟨0x1fa, 0x232, 2⟩, ⟨0x23a, 0x23b, 1⟩, ⟨0x23d, 0x23e, 1⟩,
    ⟨0x241, 0x241, 1⟩, ⟨0x243, 0x246, 1⟩, ⟨0x248, 0x24e, 2⟩, ⟨0x345, 0x345, 1⟩, ⟨0x370, 0x370, 1⟩,
    ⟨0x372, 0x372, 1⟩, ⟨0x376, 0x376, 1⟩, ⟨0x37f, 0x37f, 1⟩, ⟨0x386, 0x386, 1⟩, ⟨0x388, 0x38a, 1⟩,
    ⟨0x38c, 0x38c, 1⟩, ⟨0x38e, 0x38f, 1⟩, ⟨0x391, 0x3a1, 1⟩, ⟨0x3a3, 0x3ab, 1⟩, ⟨0x3c2, 0x3c2, 1⟩,
    ⟨0x3cf, 0x3d1, 1⟩, ⟨0x3d5, 0x3d6, 1⟩, ⟨0x3d8, 0x3ee, 2⟩, ⟨0x3f0, 0x3f1, 1⟩, ⟨0x3f4, 0x3f5, 1⟩,
    ⟨0x3f7, 0x3f7, 1⟩, ⟨0x3f9, 0x3fa, 1⟩, ⟨0x3fd, 0x42f, 1⟩, ⟨0x460, 0x480, 2⟩, ⟨0x48a, 0x4be, 2⟩,
    ⟨0x4c0, 0x4c1, 1⟩, ⟨0x4c3, 0x4cd, 2⟩, ⟨0x4d0, 0x52e, 2⟩, ⟨0x531, 0x556, 1⟩, ⟨0x587, 0x587, 1⟩,
    ⟨0x10a0, 0x10c5, 1⟩, ⟨0x10c7, 0x10c7, 1⟩, ⟨0x10cd, 0x10cd, 1⟩, ⟨0x13f8, 0x13fd, 1⟩,
    ⟨0x1c80, 0x1c89, 1⟩, ⟨0x1c90, 0x1cba, 1⟩, ⟨0x1cbd, 0x1cbf, 1⟩, ⟨0x1e00, 0x1e94, 2⟩,
    ⟨0x1e9a, 0x1e9b, 1⟩, ⟨0x1e9e, 0x1efe, 2⟩, ⟨0x1f08, 0x1f0f, 1⟩, ⟨0x1f18, 0x1f1d, 1⟩,
    ⟨0x1f28, 0x1f2f, 1⟩, ⟨0x1f38, 0x1f3f, 1⟩, ⟨0x1f48, 0x1f4d, 1⟩, ⟨0x1f59, 0x1f5f, 2⟩,
    ⟨0x1f68, 0x1f6f, 1⟩, ⟨0x1f80, 0x1faf, 1⟩, ⟨0x1fb2, 0x1fb4, 1⟩, ⟨0x1fb7, 0x1fbc, 1⟩,
    ⟨0x1fc2, 0x1fc4, 1⟩, ⟨0x1fc7, 0x1fcc, 1⟩, ⟨0x1fd8, 0x1fdb, 1⟩, ⟨0x1fe8, 0x1fec, 1⟩,
    ⟨0x1ff2, 0x1ff4, 1⟩, ⟨0x1ff7, 0x1ffc, 1⟩, ⟨0x2126, 0x2126, 1⟩, ⟨0x212a, 0x212b, 1⟩,
    ⟨0x2132, 0x2132, 1⟩, ⟨0x2160, 0x216f, 1⟩, ⟨0x2183, 0x2183, 1⟩, ⟨0x24b6, 0x24cf, 1⟩,
    ⟨0x2c00, 0x2c2f, 1⟩, ⟨0x2c60, 0x2c60, 1⟩, ⟨0x2c62, 0x2c64, 1⟩, ⟨0x2c67, 0x2c6b, 2⟩,
    ⟨0x2c6d, 0x2c70, 1⟩, ⟨0x2c72, 0x2c72, 1⟩, ⟨0x2c75, 0x2c75, 1⟩, ⟨0x2c7e, 0x2c80, 1⟩,
    ⟨0x2c82, 0x2ce2, 2⟩, ⟨0x2ceb, 0x2ceb, 1⟩, ⟨0x2ced, 0x2ced, 1⟩, ⟨0x2cf2, 0x2cf2, 1⟩,
    ⟨0xa640, 0xa66c, 2⟩, ⟨0xa680, 0xa69a, 2⟩, ⟨0xa722, 0xa72e, 2⟩, ⟨0xa732, 0xa76e, 2⟩,
    ⟨0xa779, 0xa779, 1⟩, ⟨0xa77b, 0xa77b, 1⟩, ⟨0xa77d, 0xa77e, 1⟩, ⟨0xa780, 0xa786, 2⟩,
    ⟨0xa78b, 0xa78b, 1⟩, ⟨0xa78d, 0xa78d, 1⟩, ⟨0xa790, 0xa790, 1⟩, ⟨0xa792, 0xa792, 1⟩,
    ⟨0xa796, 0xa7a8, 2⟩, ⟨0xa7aa, 0xa7ae, 1⟩, ⟨0xa7b0, 0xa7b4, 1⟩, ⟨0xa7b6, 0xa7c2, 2⟩,
    ⟨0xa7c4, 0xa7c7, 1⟩, ⟨0xa7c9, 0xa7c9, 1⟩, ⟨0xa7cb, 0xa7cc, 1⟩, ⟨0xa7d0, 0xa7d0, 1⟩,
    ⟨0xa7d6, 0xa7dc, 2⟩, ⟨0xa7f5, 0xa7f5, 1⟩, ⟨0xab70, 0xabbf, 1⟩, ⟨0xfb00, 0xfb06, 1⟩,
    ⟨0xfb13, 0xfb17, 1⟩, ⟨0xff21, 0xff3a, 1⟩, ⟨0x10400, 0x10427, 1⟩, ⟨0x104b0, 0x104d3, 1⟩,
    ⟨0x10570, 0x1057a, 1⟩, ⟨0x1057c, 0x1058a, 1⟩, ⟨0x1058c, 0x10592, 1⟩, ⟨0x10594, 0x10595, 1⟩,
    ⟨0x10c80, 0x10cb2, 1⟩, ⟨0x10d50, 0x10d65, 1⟩, ⟨0x118a0, 0x118bf, 1⟩, ⟨0x16e40, 0x16e5f, 1⟩,
    ⟨0x1e900, 0x1e921, 1⟩]

/-- Characters with the property Changes_When_Lowercased. -/
def changesWhenLowercasedStrides : List CodeStride :=
  [⟨0x41, 0x5a, 1⟩, ⟨0xc0, 0xd6, 1⟩, ⟨0xd8, 0xde, 1⟩, ⟨0x100, 0x136, 2⟩, ⟨0x139, 0x147, 2⟩,
    ⟨0x14a, 0x176, 2⟩, ⟨0x178, 0x179, 1⟩, ⟨0x17b, 0x17b, 1⟩, ⟨0x17d, 0x17d, 1⟩, ⟨0x181, 0x182, 1⟩,
    ⟨0x184, 0x184, 1⟩, ⟨0x186, 0x187, 1⟩, ⟨0x189, 0x18b, 1⟩, ⟨0x18e, 0x191, 1⟩, ⟨0x193, 0x194, 1⟩,
    ⟨0x196, 0x198, 1⟩, ⟨0x19c, 0x19d, 1⟩, ⟨0x19f, 0x1a0, 1⟩, ⟨0x1a2, 0x1a2, 1⟩, ⟨0x1a4, 0x1a4, 1⟩,
    ⟨0x1a6, 0x1a7, 1⟩, ⟨0x1a9, 0x1a9, 1⟩, ⟨0x1ac, 0x1ac, 1⟩, ⟨0x1ae, 0x1af, 1⟩, ⟨0x1b1, 0x1b3, 1⟩,
    ⟨0x1b5, 0x1b5, 1⟩, ⟨0x1b7, 0x1b8, 1⟩, ⟨0x1bc, 0x1bc, 1⟩, ⟨0x1c4, 0x1c5, 1⟩, ⟨0x1c7, 0x1c8, 1⟩,
    ⟨0x1ca, 0x1cb, 1⟩, ⟨0x1cd, 0x1db, 2⟩, ⟨0x1de, 0x1ee, 2⟩, ⟨0x1f1, 0x1f2, 1⟩, ⟨0x1f4, 0x1f4, 1⟩,
    ⟨0x1f6, 0x1f8, 1⟩, ⟨0x1fa, 0x232, 2⟩, ⟨0x23a, 0x23b, 1⟩, ⟨0x23d, 0x23e, 1⟩, ⟨0x241, 0x241, 1⟩,
    ⟨0x243, 0x246, 1⟩, ⟨0x248, 0x24e, 2⟩, ⟨0x370, 0x370, 1⟩, ⟨0x372, 0x372, 1⟩, ⟨0x376, 0x376, 1⟩,
    ⟨0x37f, 0x37f, 1⟩, ⟨0x386, 0x386, 1⟩, ⟨0x388, 0x38a, 1⟩, ⟨0x38c, 0x38c, 1⟩, ⟨0x38e, 0x38f, 1⟩,
    ⟨0x391, 0x3a1, 1⟩, ⟨0x3a3, 0x3ab, 1⟩, ⟨0x3cf, 0x3cf, 1⟩, ⟨0x3d8, 0x3ee, 2⟩, ⟨0x3f4, 0x3f4, 1⟩,
    ⟨0x3f7, 0x3f7, 1⟩, ⟨0x3f9, 0x3fa, 1⟩, ⟨0x3fd, 0x42f, 1⟩, ⟨0x460, 0x480, 2⟩, ⟨0x48a, 0x4be, 2⟩,
    ⟨0x4c0, 0x4c1, 1⟩, ⟨0x4c3, 0x4cd, 2⟩, ⟨0x4d0, 0x52e, 2⟩, ⟨0x531, 0x556, 1⟩,
    ⟨0x10a0, 0x10c5, 1⟩, ⟨0x10c7, 0x10c7, 1⟩, ⟨0x10cd, 0x10cd, 1⟩, ⟨0x13a0, 0x13f5, 1⟩,
    ⟨0x1c89, 0x1c89, 1⟩, ⟨0x1c90, 0x1cba, 1⟩, ⟨0x1cbd, 0x1cbf, 1⟩, ⟨0x1e00, 0x1e94, 2⟩,
    ⟨0x1e9e, 0x1efe, 2⟩, ⟨0x1f08, 0x1f0f, 1⟩, ⟨0x1f18, 0x1f1d, 1⟩, ⟨0x1f28, 0x1f2f, 1⟩,
    ⟨0x1f38, 0x1f3f, 1⟩, ⟨0x1f48, 0x1f4d, 1⟩, ⟨0x1f59, 0x1f5f, 2⟩, ⟨0x1f68, 0x1f6f, 1⟩,
    ⟨0x1f88, 0x1f8f, 1⟩, ⟨0x1f98, 0x1f9f, 1⟩, ⟨0x1fa8, 0x1faf, 1⟩, ⟨0x1fb8, 0x1fbc, 1⟩,
    ⟨0x1fc8, 0x1fcc, 1⟩, ⟨0x1fd8, 0x1fdb, 1⟩, ⟨0x1fe8, 0x1fec, 1⟩, ⟨0x1ff8, 0x1ffc, 1⟩,
    ⟨0x2126, 0x2126, 1⟩, ⟨0x212a, 0x212b, 1⟩, ⟨0x2132, 0x2132, 1⟩, ⟨0x2160, 0x216f, 1⟩,
    ⟨0x2183, 0x2183, 1⟩, ⟨0x24b6, 0x24cf, 1⟩, ⟨0x2c00, 0x2c2f, 1⟩, ⟨0x2c60, 0x2c60, 1⟩,
    ⟨0x2c62, 0x2c64, 1⟩, ⟨0x2c67, 0x2c6b, 2⟩, ⟨0x2c6d, 0x2c70, 1⟩, ⟨0x2c72, 0x2c72, 1⟩,
    ⟨0x2c75, 0x2c75, 1⟩, ⟨0x2c7e, 0x2c80, 1⟩, ⟨0x2c82, 0x2ce2, 2⟩, ⟨0x2ceb, 0x2ceb, 1⟩,
    ⟨0x2ced, 0x2ced, 1⟩, ⟨0x2cf2, 0x2cf2, 1⟩, ⟨0xa640, 0xa66c, 2⟩, ⟨0xa680, 0xa69a, 2⟩,
    ⟨0xa722, 0xa72e, 2⟩, ⟨0xa732, 0xa76e, 2⟩, ⟨0xa779, 0xa779, 1⟩, ⟨0xa77b, 0xa77b, 1⟩,
    ⟨0xa77d, 0xa77e, 1⟩, ⟨0xa780, 0xa786, 2⟩, ⟨0xa78b, 0xa78b, 1⟩, ⟨0xa78d, 0xa78d, 1⟩,
    ⟨0xa790, 0xa790, 1⟩, ⟨0xa792, 0xa792, 1⟩, ⟨0xa796, 0xa7a8, 2⟩, ⟨0xa7aa, 0xa7ae, 1⟩,
    ⟨0xa7b0, 0xa7b4, 1⟩, ⟨0xa7b6, 0xa7c2, 2⟩, ⟨0xa7c4, 0xa7c7, 1⟩, ⟨0xa7c9, 0xa7c9, 1⟩,
    ⟨0xa7cb, 0xa7cc, 1⟩, ⟨0xa7d0, 0xa7d0, 1⟩, ⟨0xa7d6, 0xa7dc, 2⟩, ⟨0xa7f5, 0xa7f5, 1⟩,
    ⟨0xff21, 0xff3a, 1⟩, ⟨0x10400, 0x10427, 1⟩, ⟨0x104b0, 0x104d3, 1⟩, ⟨0x10570, 0x1057a, 1⟩,
    ⟨0x1057c, 0x1058a, 1⟩, ⟨0x1058c, 0x10592, 1⟩, ⟨0x10594, 0x10595, 1⟩, ⟨0x10c80, 0x10cb2, 1⟩,
    ⟨0x10d50, 0x10d65, 1⟩, ⟨0x118a0, 0x118bf, 1⟩, ⟨0x16e40, 0x16e5f, 1⟩, ⟨0x1e900, 0x1e921, 1⟩]

/-- Characters with the property Changes_When_Titlecased. -/
def changesWhenTitlecasedStrides : List CodeStride :=
  [⟨0x61, 0x7a, 1⟩, ⟨0xb5, 0xb5, 1⟩, ⟨0xdf, 0xf6, 1⟩, ⟨0xf8, 0xff, 1⟩, ⟨0x101, 0x137, 2⟩,
    ⟨0x13a, 0x146, 2⟩, ⟨0x148, 0x149, 1⟩, ⟨0x14b, 0x177, 2⟩, ⟨0x17a, 0x17a, 1⟩, ⟨0x17c, 0x17c, 1⟩,
    ⟨0x17e, 0x180, 1⟩, ⟨0x183, 0x183, 1⟩, ⟨0x185, 0x185, 1⟩, ⟨0x188, 0x188, 1⟩, ⟨0x18c, 0x18c, 1⟩,
    ⟨0x192, 0x192, 1⟩, ⟨0x195, 0x195, 1⟩, ⟨0x199, 0x19b, 1⟩, ⟨0x19e, 0x19e, 1⟩, ⟨0x1a1, 0x1a5, 2⟩,
    ⟨0x1a8, 0x1a8, 1⟩, ⟨0x1ad, 0x1ad, 1⟩, ⟨0x1b0, 0x1b0, 1⟩, ⟨0x1b4, 0x1b4, 1⟩, ⟨0x1b6, 0x1b6, 1⟩,
    ⟨0x1b9, 0x1b9, 1⟩, ⟨0x1bd, 0x1bd, 1⟩, ⟨0x1bf, 0x1bf, 1⟩, ⟨0x1c4, 0x1c4, 1⟩, ⟨0x1c6, 0x1c7, 1⟩,
    ⟨0x1c9, 0x1ca, 1⟩, ⟨0x1cc, 0x1da, 2⟩, ⟨0x1dc, 0x1dd, 1⟩, ⟨0x1df, 0x1ed, 2⟩, ⟨0x1ef, 0x1f1, 1⟩,
    ⟨0x1f3, 0x1f3, 1⟩, ⟨0x1f5, 0x1f5, 1⟩, ⟨0x1f9, 0x21f, 2⟩, ⟨0x223, 0x233, 2⟩, ⟨0x23c, 0x23c, 1⟩,
    ⟨0x23f, 0x240, 1⟩, ⟨0x242, 0x242, 1⟩, ⟨0x247, 0x24d, 2⟩, ⟨0x24f, 0x254, 1⟩, ⟨0x256, 0x257, 1⟩,
    ⟨0x259, 0x259, 1⟩, ⟨0x25b, 0x25c, 1⟩, ⟨0x260, 0x261, 1⟩, ⟨0x263, 0x266, 1⟩, ⟨0x268, 0x26c, 1⟩,
    ⟨0x26f, 0x26f, 1⟩, ⟨0x271, 0x272, 1⟩, ⟨0x275, 0x275, 1⟩, ⟨0x27d, 0x27d, 1⟩, ⟨0x280, 0x280, 1⟩,
    ⟨0x282, 0x283, 1⟩, ⟨0x287, 0x28c, 1⟩, ⟨0x292, 0x292, 1⟩, ⟨0x29d, 0x29e, 1⟩, ⟨0x345, 0x345, 1⟩,
    ⟨0x371, 0x371, 1⟩, ⟨0x373, 0x373, 1⟩, ⟨0x377, 0x377, 1⟩, ⟨0x37b, 0x37d, 1⟩, ⟨0x390, 0x390, 1⟩,
    ⟨0x3ac, 0x3ce, 1⟩, ⟨0x3d0, 0x3d1, 1⟩, ⟨0x3d5, 0x3d7, 1⟩, ⟨0x3d9, 0x3ed, 2⟩, ⟨0x3ef, 0x3f3, 1⟩,
    ⟨0x3f5, 0x3f5, 1⟩, ⟨0x3f8, 0x3f8, 1⟩, ⟨0x3fb, 0x3fb, 1⟩, ⟨0x430, 0x45f, 1⟩, ⟨0x461, 0x481, 2⟩,
    ⟨0x48b, 0x4bf, 2⟩, ⟨0x4c2, 0x4cc, 2⟩, ⟨0x4ce, 0x4cf, 1⟩, ⟨0x4d1, 0x52f, 2⟩, ⟨0x561, 0x587, 1⟩,
    ⟨0x13f8, 0x13fd, 1⟩, ⟨0x1c80, 0x1c88, 1⟩, ⟨0x1c8a, 0x1c8a, 1⟩, ⟨0x1d79, 0x1d79, 1⟩,
    ⟨0x1d7d, 0x1d7d, 1⟩, ⟨0x1d8e, 0x1d8e, 1⟩, ⟨0x1e01, 0x1e93, 2⟩, ⟨0x1e95, 0x1e9b, 1⟩,
    ⟨0x1ea1, 0x1efd, 2⟩, ⟨0x1eff, 0x1f07, 1⟩, ⟨0x1f10, 0x1f15, 1⟩, ⟨0x1f20, 0x1f27, 1⟩,
    ⟨0x1f30, 0x1f37, 1⟩, ⟨0x1f40, 0x1f45, 1⟩, ⟨0x1f50, 0x1f57, 1⟩, ⟨0x1f60, 0x1f67, 1⟩,
    ⟨0x1f70, 0x1f7d, 1⟩, ⟨0x1f80, 0x1f87, 1⟩, ⟨0x1f90, 0x1f97, 1⟩, ⟨0x1fa0, 0x1fa7, 1⟩,
    ⟨0x1fb0, 0x1fb4, 1⟩, ⟨0x1fb6, 0x1fb7, 1⟩, ⟨0x1fbe, 0x1fbe, 1⟩, ⟨0x1fc2, 0x1fc4, 1⟩,
    ⟨0x1fc6, 0x1fc7, 1⟩, ⟨0x1fd0, 0x1fd3, 1⟩, ⟨0x1fd6, 0x1fd7, 1⟩, ⟨0x1fe0, 0x1fe7, 1⟩,
    ⟨0x1ff2, 0x1ff4, 1⟩, ⟨0x1ff6, 0x1ff7, 1⟩, ⟨0x214e, 0x214e, 1⟩, ⟨0x2170, 0x217f, 1⟩,
    ⟨0x2184, 0x2184, 1⟩, ⟨0x24d0, 0x24e9, 1⟩, ⟨0x2c30, 0x2c5f, 1⟩, ⟨0x2c61, 0x2c61, 1⟩,
    ⟨0x2c65, 0x2c66, 1⟩, ⟨0x2c68, 0x2c6c, 2⟩, ⟨0x2c73, 0x2c73, 1⟩, ⟨0x2c76, 0x2c76, 1⟩,
    ⟨0x2c81, 0x2ce3, 2⟩, ⟨0x2cec, 0x2cec, 1⟩, ⟨0x2cee, 0x2cee, 1⟩, ⟨0x2cf3, 0x2cf3, 1⟩,
    ⟨0x2d00, 0x2d25, 1⟩, ⟨0x2d27, 0x2d27, 1⟩, ⟨0x2d2d, 0x2d2d, 1⟩, ⟨0xa641, 0xa66d, 2⟩,
    ⟨0xa681, 0xa69b, 2⟩, ⟨0xa723, 0xa72f, 2⟩, ⟨0xa733, 0xa76f, 2⟩, ⟨0xa77a, 0xa77a, 1⟩,
    ⟨0xa77c, 0xa77c, 1⟩, ⟨0xa77f, 0xa787, 2⟩, ⟨0xa78c, 0xa78c, 1⟩, ⟨0xa791, 0xa791, 1⟩,
    ⟨0xa793, 0xa794, 1⟩, ⟨0xa797, 0xa7a9, 2⟩, ⟨0xa7b5, 0xa7c3, 2⟩, ⟨0xa7c8, 0xa7c8, 1⟩,
    ⟨0xa7ca, 0xa7ca, 1⟩, ⟨0xa7cd, 0xa7cd, 1⟩, ⟨0xa7d1, 0xa7d1, 1⟩, ⟨0xa7d7, 0xa7db, 2⟩,
    ⟨0xa7f6, 0xa7f6, 1⟩, ⟨0xab53, 0xab53, 1⟩, ⟨0xab70, 0xabbf, 1⟩, ⟨0xfb00, 0xfb06, 1⟩,
    ⟨0xfb13, 0xfb17, 1⟩, ⟨0xff41, 0xff5a, 1⟩, ⟨0x10428, 0x1044f, 1⟩, ⟨0x104d8, 0x104fb, 1⟩,
    ⟨0x10597, 0x105a1, 1⟩, ⟨0x105a3, 0x105b1, 1⟩, ⟨0x105b3, 0x105b9, 1⟩, ⟨0x105bb, 0x105bc, 1⟩,
    ⟨0x10cc0, 0x10cf2, 1⟩, ⟨0x10d70, 0x10d85, 1⟩, ⟨0x118c0, 0x118df, 1⟩, ⟨0x16e60, 0x16e7f, 1⟩,
    ⟨0x1e922, 0x1e943, 1⟩]

/-- Characters with the property Changes_When_Uppercased. -/
def changesWhenUppercasedStrides : List CodeStride :=
  [⟨0x61, 0x7a, 1⟩, ⟨0xb5, 0xb5, 1⟩, ⟨0xdf, 0xf6, 1⟩, ⟨0xf8, 0xff, 1⟩, ⟨0x101, 0x137, 2⟩,
    ⟨0x13a, 0x146, 2⟩, ⟨0x148, 0x149, 1⟩, ⟨0x14b, 0x177, 2⟩, ⟨0x17a, 0x17a, 1⟩, ⟨0x17c, 0x17c, 1⟩,
    ⟨0x17e, 0x180, 1⟩, ⟨0x183, 0x183, 1⟩, ⟨0x185, 0x185, 1⟩, ⟨0x188, 0x188, 1⟩, ⟨0x18c, 0x18c, 1⟩,
    ⟨0x192, 0x192, 1⟩, ⟨0x195, 0x195, 1⟩, ⟨0x199, 0x19b, 1⟩, ⟨0x19e, 0x19e, 1⟩, ⟨0x1a1, 0x1a5, 2⟩,
    ⟨0x1a8, 0x1a8, 1⟩, ⟨0x1ad, 0x1ad, 1⟩, ⟨0x1b0, 0x1b0, 1⟩, ⟨0x1b4, 0x1b4, 1⟩, ⟨0x1b6, 0x1b6, 1⟩,
    ⟨0x1b9, 0x1b9, 1⟩, ⟨0x1bd, 0x1bd, 1⟩, ⟨0x1bf, 0x1bf, 1⟩, ⟨0x1c5, 0x1c6, 1⟩, ⟨0x1c8, 0x1c9, 1⟩,
    ⟨0x1cb, 0x1cc, 1⟩, ⟨0x1ce, 0x1da, 2⟩, ⟨0x1dc, 0x1dd, 1⟩, ⟨0x1df, 0x1ed, 2⟩, ⟨0x1ef, 0x1f0, 1⟩,
    ⟨0x1f2, 0x1f3, 1⟩, ⟨0x1f5, 0x1f5, 1⟩, ⟨0x1f9, 0x21f, 2⟩, ⟨0x223, 0x233, 2⟩, ⟨0x23c, 0x23c, 1⟩,
    ⟨0x23f, 0x240, 1⟩, ⟨0x242, 0x242, 1⟩, ⟨0x247, 0x24d, 2⟩, ⟨0x24f, 0x254, 1⟩, ⟨0x256, 0x257, 1⟩,
    ⟨0x259, 0x259, 1⟩, ⟨0x25b, 0x25c, 1⟩, ⟨0x260, 0x261, 1⟩, ⟨0x263, 0x266, 1⟩, ⟨0x268, 0x26c, 1⟩,
    ⟨0x26f, 0x26f, 1⟩, ⟨0x271, 0x272, 1⟩, ⟨0x275, 0x275, 1⟩, ⟨0x27d, 0x27d, 1⟩, ⟨0x280, 0x280, 1⟩,
    ⟨0x282, 0x283, 1⟩, ⟨0x287, 0x28c, 1⟩, ⟨0x292, 0x292, 1⟩, ⟨0x29d, 0x29e, 1⟩, ⟨0x345, 0x345, 1⟩,
    ⟨0x371, 0x371, 1⟩, ⟨0x373, 0x373, 1⟩, ⟨0x377, 0x377, 1⟩, ⟨0x37b, 0x37d, 1⟩, ⟨0x390, 0x390, 1⟩,
    ⟨0x3ac, 0x3ce, 1⟩, ⟨0x3d0, 0x3d1, 1⟩, ⟨0x3d5, 0x3d7, 1⟩, ⟨0x3d9, 0x3ed, 2⟩, ⟨0x3ef, 0x3f3, 1⟩,
    ⟨0x3f5, 0x3f5, 1⟩, ⟨0x3f8, 0x3f8, 1⟩, ⟨0x3fb, 0x3fb, 1⟩, ⟨0x430, 0x45f, 1⟩, ⟨0x461, 0x481, 2⟩,
    ⟨0x48b, 0x4bf, 2⟩, ⟨0x4c2, 0x4cc, 2⟩, ⟨0x4ce, 0x4cf, 1⟩, ⟨0x4d1, 0x52f, 2⟩, ⟨0x561, 0x587, 1⟩,
    ⟨0x10d0, 0x10fa, 1⟩, ⟨0x10fd, 0x10ff, 1⟩, ⟨0x13f8, 0x13fd, 1⟩, ⟨0x1c80, 0x1c88, 1⟩,
    ⟨0x1c8a, 0x1c8a, 1⟩, ⟨0x1d79, 0x1d79, 1⟩, ⟨0x1d7d, 0x1d7d, 1⟩, ⟨0x1d8e, 0x1d8e, 1⟩,
    ⟨0x1e01, 0x1e93, 2⟩, ⟨0x1e95, 0x1e9b, 1⟩, ⟨0x1ea1, 0x1efd, 2⟩, ⟨0x1eff, 0x1f07, 1⟩,
    ⟨0x1f10, 0x1f15, 1⟩, ⟨0x1f20, 0x1f27, 1⟩, ⟨0x1f30, 0x1f37, 1⟩, ⟨0x1f40, 0x1f45, 1⟩,
    ⟨0x1f50, 0x1f57, 1⟩, ⟨0x1f60, 0x1f67, 1⟩, ⟨0x1f70, 0x1f7d, 1⟩, ⟨0x1f80, 0x1fb4, 1⟩,
    ⟨0x1fb6, 0x1fb7, 1⟩, ⟨0x1fbc, 0x1fbc, 1⟩, ⟨0x1fbe, 0x1fbe, 1⟩, ⟨0x1fc2, 0x1fc4, 1⟩,
    ⟨0x1fc6, 0x1fc7, 1⟩, ⟨0x1fcc, 0x1fcc, 1⟩, ⟨0x1fd0, 0x1fd3, 1⟩, ⟨0x1fd6, 0x1fd7, 1⟩,
    ⟨0x1fe0, 0x1fe7, 1⟩, ⟨0x1ff2, 0x1ff4, 1⟩, ⟨0x1ff6, 0x1ff7, 1⟩, ⟨0x1ffc, 0x1ffc, 1⟩,
    ⟨0x214e, 0x214e, 1⟩, ⟨0x2170, 0x217f, 1⟩, ⟨0x2184, 0x2184, 1⟩, ⟨0x24d0, 0x24e9, 1⟩,
    ⟨0x2c30, 0x2c5f, 1⟩, ⟨0x2c61, 0x2c61, 1⟩, ⟨0x2c65, 0x2c66, 1⟩, ⟨0x2c68, 0x2c6c, 2⟩,
    ⟨0x2c73, 0x2c73, 1⟩, ⟨0x2c76, 0x2c76, 1⟩, ⟨0x2c81, 0x2ce3, 2⟩, ⟨0x2cec, 0x2cec, 1⟩,
    ⟨0x2cee, 0x2cee, 1⟩, ⟨0x2cf3, 0x2cf3, 1⟩, ⟨0x2d00, 0x2d25, 1⟩, ⟨0x2d27, 0x2d27, 1⟩,
    ⟨0x2d2d, 0x2d2d, 1⟩, ⟨0xa641, 0xa66d, 2⟩, ⟨0xa681, 0xa69b, 2⟩, ⟨0xa723, 0xa72f, 2⟩,
    ⟨0xa733, 0xa76f, 2⟩, ⟨0xa77a, 0xa77a, 1⟩, ⟨0xa77c, 0xa77c, 1⟩, ⟨0xa77f, 0xa787, 2⟩,
    ⟨0xa78c, 0xa78c, 1⟩, ⟨0xa791, 0xa791, 1⟩, ⟨0xa793, 0xa794, 1⟩, ⟨0xa797, 0xa7a9, 2⟩,
    ⟨0xa7b5, 0xa7c3, 2⟩, ⟨0xa7c8, 0xa7c8, 1⟩, ⟨0xa7ca, 0xa7ca, 1⟩, ⟨0xa7cd, 0xa7cd, 1⟩,
    ⟨0xa7d1, 0xa7d1, 1⟩, ⟨0xa7d7, 0xa7db, 2⟩, ⟨0xa7f6, 0xa7f6, 1⟩, ⟨0xab53, 0xab53, 1⟩,
    ⟨0xab70, 0xabbf, 1⟩, ⟨0xfb00, 0xfb06, 1⟩, ⟨0xfb13, 0xfb17, 1⟩, ⟨0xff41, 0xff5a, 1⟩,
    ⟨0x10428, 0x1044f, 1⟩, ⟨0x104d8, 0x104fb, 1⟩, ⟨0x10597, 0x105a1, 1⟩, ⟨0x105a3, 0x105b1, 1⟩,
    ⟨0x105b3, 0x105b9, 1⟩, ⟨0x105bb, 0x105bc, 1⟩, ⟨0x10cc0, 0x10cf2, 1⟩, ⟨0x10d70, 0x10d85, 1⟩,
    ⟨0x118c0, 0x118df, 1⟩, ⟨0x16e60, 0x16e7f, 1⟩, ⟨0x1e922, 0x1e943, 1⟩]

/-- Characters with the property ID_Start that do not start an identifier when it is brought into
a normal form. -/
def unnormalizedStartRanges : List CodeRange :=
  [⟨0x37a, 0x37a⟩, ⟨0xe33, 0xe33⟩, ⟨0xeb3, 0xeb3⟩, ⟨0x309b, 0x309c⟩, ⟨0xfc5e, 0xfc63⟩,
    ⟨0xfdfa, 0xfdfb⟩, ⟨0xfe70, 0xfe70⟩, ⟨0xfe72, 0xfe72⟩, ⟨0xfe74, 0xfe74⟩, ⟨0xfe76, 0xfe76⟩,
    ⟨0xfe78, 0xfe78⟩, ⟨0xfe7a, 0xfe7a⟩, ⟨0xfe7c, 0xfe7c⟩, ⟨0xfe7e, 0xfe7e⟩, ⟨0xff9e, 0xff9f⟩]

/-- Characters with the property ID_Continue that do not continue an identifier when it is brought
into a normal form. -/
def unnormalizedContinueRanges : List CodeRange :=
  [⟨0x37a, 0x37a⟩, ⟨0x309b, 0x309c⟩, ⟨0xfc5e, 0xfc63⟩, ⟨0xfdfa, 0xfdfb⟩, ⟨0xfe70, 0xfe70⟩,
    ⟨0xfe72, 0xfe72⟩, ⟨0xfe74, 0xfe74⟩, ⟨0xfe76, 0xfe76⟩, ⟨0xfe78, 0xfe78⟩, ⟨0xfe7a, 0xfe7a⟩,
    ⟨0xfe7c, 0xfe7c⟩, ⟨0xfe7e, 0xfe7e⟩]

end Peg.Regex
