/-!
# Identifiers of generated code

Generated code is Rust, whose identifiers consist of letters, digits and underscores, do not start
with a digit and differ from the keywords.
-/

namespace Peg.Code

/-- The words that cannot be used as plain identifiers. -/
def keywords : List String :=
  ["as", "async", "await", "break", "const", "continue", "crate", "dyn", "else", "enum", "extern",
    "false", "fn", "for", "if", "impl", "in", "let", "loop", "match", "mod", "move", "mut", "pub",
    "ref", "return", "self", "Self", "static", "struct", "super", "trait", "true", "type", "unsafe",
    "use", "where", "while", "yield", "gen"]

/-- The keywords that cannot be written as raw identifiers either. -/
def pathKeywords : List String :=
  ["self", "Self", "super", "crate"]

/-- Whether the character may occur in an identifier. -/
def isIdentifierChar (c : Char) : Bool :=
  c.isAlphanum || c = '_'

/-- The name with an underscore for every other character, and one in front if it would be empty or
start with a digit. -/
def plainIdentifier (name : String) : String :=
  let chars := name.toList.map fun c => if isIdentifierChar c then c else '_'
  match chars with
  | [] => "_"
  | c :: rest => String.ofList (if c.isDigit then '_' :: c :: rest else c :: rest)

/-- An identifier made from any name. A keyword becomes a raw identifier where that is possible and
gets an underscore behind it otherwise. -/
def identifier (name : String) : String :=
  let plain := plainIdentifier name
  if pathKeywords.contains plain then plain ++ "_"
  else if keywords.contains plain then "r#" ++ plain
  else plain

end Peg.Code
