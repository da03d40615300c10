import Peg.Regex.AgeTable
import Peg.Regex.Boundary
import Peg.Regex.Error
import Peg.Regex.SharedScriptTable

/-!
# Unicode properties in patterns

General categories, scripts, ages, parts in text boundaries and two-valued properties. Names are
compared without regard to letter case, spaces, hyphens and underscores, and an initial `is` does
not count. The members are those of Unicode 16.
-/

namespace Peg.Regex

open Peg.Text

namespace Property

/-- A name in the form in which names are compared. The abbreviation `isc` keeps its initial. -/
def normalize (name : List Char) : String :=
  let stripped := match name with
    | i :: s :: rest => if i.toLower = 'i' && s.toLower = 's' then some rest else none
    | _ => none
  let significant := (stripped.getD name).filter fun c =>
    c != ' ' && c != '_' && c != '-' && c.toNat < 0x80
  let lowered := String.ofList (significant.map Char.toLower)
  if stripped.isSome && lowered = "c" then "isc" else lowered

/-- The general categories with their short and long names. -/
def categories : List (String × String × List CodeStride) :=
  [("lu", "uppercaseletter", Category.uppercaseLetter),
    ("ll", "lowercaseletter", Category.lowercaseLetter),
    ("lt", "titlecaseletter", Category.titlecaseLetter),
    ("lm", "modifierletter", Category.modifierLetter),
    ("lo", "otherletter", Category.otherLetter),
    ("mn", "nonspacingmark", Category.nonspacingMark),
    ("mc", "spacingmark", Category.spacingMark),
    ("me", "enclosingmark", Category.enclosingMark),
    ("nd", "decimalnumber", Category.decimalNumber),
    ("nl", "letternumber", Category.letterNumber),
    ("no", "othernumber", Category.otherNumber),
    ("pc", "connectorpunctuation", Category.connectorPunctuation),
    ("pd", "dashpunctuation", Category.dashPunctuation),
    ("ps", "openpunctuation", Category.openPunctuation),
    ("pe", "closepunctuation", Category.closePunctuation),
    ("pi", "initialpunctuation", Category.initialPunctuation),
    ("pf", "finalpunctuation", Category.finalPunctuation),
    ("po", "otherpunctuation", Category.otherPunctuation),
    ("sm", "mathsymbol", Category.mathSymbol),
    ("sc", "currencysymbol", Category.currencySymbol),
    ("sk", "modifiersymbol", Category.modifierSymbol),
    ("so", "othersymbol", Category.otherSymbol),
    ("zs", "spaceseparator", Category.spaceSeparator),
    ("zl", "lineseparator", Category.lineSeparator),
    ("zp", "paragraphseparator", Category.paragraphSeparator),
    ("cc", "control", Category.control),
    ("cf", "format", Category.format),
    ("co", "privateuse", Category.privateUse),
    ("cn", "unassigned", Category.unassigned)]

/-- The groups of general categories: short name, long name, and the short names of the members. -/
def categoryGroups : List (String × String × List String) :=
  [("lc", "casedletter", ["lu", "ll", "lt"]),
    ("l", "letter", ["lu", "ll", "lt", "lm", "lo"]),
    ("m", "mark", ["mn", "mc", "me"]),
    ("n", "number", ["nd", "nl", "no"]),
    ("p", "punctuation", ["pc", "pd", "ps", "pe", "pi", "pf", "po"]),
    ("s", "symbol", ["sm", "sc", "sk", "so"]),
    ("z", "separator", ["zs", "zl", "zp"]),
    ("c", "other", ["cc", "cf", "co", "cn"])]

/-- Second long names of categories and of a group. -/
def categoryAliases : List (String × String) :=
  [("combiningmark", "mark"), ("cntrl", "control"), ("digit", "decimalnumber"),
    ("punct", "punctuation")]

/-- The members of the general category with a normalized name. -/
def category? (name : String) : Option CharSet :=
  let name := (categoryAliases.lookup name).getD name
  match name with
  | "any" => some (.complement .empty)
  | "ascii" => some (.ofAscii .ascii)
  | "assigned" => some (.complement (.strides Category.unassigned))
  | _ =>
    match lookupNamed categories name with
    | some strides => some (.strides strides)
    | none => (lookupNamed categoryGroups name).map fun members =>
        .unionAll ((members.filterMap (lookupNamed categories)).map .strides)

/-- A name of a script, with what replaces the names that scripts had before. -/
def currentScriptName (name : String) : String :=
  if name = "qaac" then "coptic" else if name = "qaai" then "inherited" else name

/-- The members of the script with a normalized name. -/
def script? (name : String) : Option CharSet :=
  (lookupNamed scripts (currentScriptName name)).map .ranges

/-- All characters that scripts share. -/
def allShared : CharSet :=
  .unionAll (sharedCharacters.map fun entry => .ranges entry.2)

/-- The members of the script with a normalized name, and the characters that it shares with other
scripts. The characters of no particular script are those that are not shared in this way. -/
def extendedScript? (name : String) : Option CharSet :=
  let name := currentScriptName name
  (scripts.find? fun entry => entry.1 = name || entry.2.1 = name).map fun (_, long, own) =>
    if long = "common" || long = "inherited" then .difference (.ranges own) allShared
    else
      match sharedCharacters.lookup long with
      | some shared => .union (.ranges own) (.ranges shared)
      | none => .ranges own

/-- The characters that were assigned up to a version of Unicode. -/
def age? (version : String) : Option CharSet :=
  let (earlier, later) := ages.span fun entry => entry.1 ≠ version && entry.2.1 ≠ version
  later.head?.map fun entry =>
    .unionAll ((earlier ++ [entry]).map fun entry => .ranges entry.2.2)

/-- The two-valued property with a normalized name. -/
def binary? (name : String) : Option CharSet :=
  lookupNamed binaries name

/-- The properties whose values have members, each as a function of the name of a value. -/
def enumeration? : String → Option (String → Option CharSet)
  | "age" => some age?
  | "gc" | "generalcategory" => some category?
  | "gcb" | "graphemeclusterbreak" => some (lookupNamed graphemeBreaks)
  | "sb" | "sentencebreak" => some (lookupNamed sentenceBreaks)
  | "sc" | "script" => some script?
  | "scx" | "scriptextensions" => some extendedScript?
  | "wb" | "wordbreak" => some (lookupNamed wordBreaks)
  | _ => none

/-- Properties of the standard that no pattern can ask for. -/
def otherProperties : List String :=
  ["bc", "bidiclass", "bidimirroringglyph", "bidipairedbracket", "bidipairedbrackettype", "blk",
    "block", "bmg", "bpb", "bpt", "canonicalcombiningclass", "casefolding", "ccc", "ce", "cf",
    "changeswhennfkccasefolded", "cjkaccountingnumeric", "cjkcompatibilityvariant", "cjkiicore",
    "cjkirggsource", "cjkirghsource", "cjkirgjsource", "cjkirgkpsource", "cjkirgksource",
    "cjkirgmsource", "cjkirgssource", "cjkirgtsource", "cjkirguksource", "cjkirgusource",
    "cjkirgvsource", "cjkothernumeric", "cjkprimarynumeric", "cjkrsunicode", "compex",
    "compositionexclusion", "cwkcf", "decompositionmapping", "decompositiontype", "dm", "dt",
    "ea", "eastasianwidth", "equideo", "equivalentunifiedideograph", "expandsonnfc",
    "expandsonnfd", "expandsonnfkc", "expandsonnfkd", "fcnfkc", "fcnfkcclosure",
    "fullcompositionexclusion", "hangulsyllabletype", "hst", "incb", "indicconjunctbreak",
    "indicpositionalcategory", "indicsyllabiccategory", "inpc", "insc", "isc", "jamoshortname",
    "jg", "joininggroup", "joiningtype", "jsn", "jt", "kaccountingnumeric",
    "kcompatibilityvariant", "kehcat", "kehdesc", "kehhg", "kehifao", "kehjsesh", "kehnomirror",
    "kehnorotate", "kiicore", "kirggsource", "kirghsource", "kirgjsource", "kirgkpsource",
    "kirgksource", "kirgmsource", "kirgssource", "kirgtsource", "kirguksource", "kirgusource",
    "kirgvsource", "kothernumeric", "kprimarynumeric", "krsunicode", "lb", "lc", "linebreak",
    "lowercasemapping", "na", "na1", "name", "namealias", "nfcqc", "nfcquickcheck", "nfdqc",
    "nfdquickcheck", "nfkccasefold", "nfkccf", "nfkcqc", "nfkcquickcheck", "nfkcscf",
    "nfkcsimplecasefold", "nfkdqc", "nfkdquickcheck", "nt", "numerictype", "numericvalue", "nv",
    "ocomment", "scf", "sfc", "simplecasefolding", "simplelowercasemapping",
    "simpletitlecasemapping", "simpleuppercasemapping", "slc", "stc", "suc", "tc",
    "titlecasemapping", "uc", "unicode1name", "unicoderadicalstroke", "uppercasemapping", "urs",
    "verticalorientation", "vo", "xonfc", "xonfd", "xonfkc", "xonfkd"]

/-- Whether a name stands for a property of the standard. -/
def isProperty (name : String) : Bool :=
  (binary? name).isSome || (enumeration? name).isSome || otherProperties.contains name

/-- Values of properties that have a name and no members: those of surrogates, and of scripts that
no character belongs to. -/
def emptyValues : List String :=
  ["cs", "surrogate", "hrkt", "katakanaorhiragana", "unknown", "zzzz"]

/-- Short names of categories that are also those of properties. -/
def sharedNames : List String :=
  ["cf", "lc", "sc"]

/-- The members of what a single name stands for. A property goes before a general category, unless
they share a name. -/
def named (name : String) : Except PatternError CharSet :=
  if isProperty name && !(sharedNames.contains name) then
    match binary? name with
    | some set => .ok set
    | none => .error .unicodePropertyNotFound
  else
    match category? name <|> script? name with
    | some set => .ok set
    | none =>
      if emptyValues.contains name then .error .unicodePropertyValueNotFound
      else .error .unicodePropertyNotFound

/-- The members of what a property name with a value stands for. -/
def valued (name value : String) : Except PatternError CharSet :=
  match (enumeration? name).bind fun members => members value with
  | some set => .ok set
  | none =>
    if isProperty name then .error .unicodePropertyValueNotFound
    else .error .unicodePropertyNotFound

end Property

namespace PropertyQuery

/-- Whether the query asks for everything without the property. -/
def isUnequal : PropertyQuery → Bool
  | .valued _ _ unequal => unequal
  | _ => false

/-- The characters with the property. -/
def members : PropertyQuery → Except PatternError CharSet
  | .letter c => Property.named (Property.normalize [c])
  | .named name => Property.named (Property.normalize name.toList)
  | .valued name value _ =>
    Property.valued (Property.normalize name.toList) (Property.normalize value.toList)

end PropertyQuery

end Peg.Regex
