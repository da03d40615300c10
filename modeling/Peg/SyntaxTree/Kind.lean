/-!
# Kinds of grammar syntax

The kinds of tokens and nodes that occur in the syntax tree of a grammar. Every kind has a name and
a number, tokens before nodes.
-/

namespace Peg

/-- The kinds of tokens. -/
inductive TokenKind where
  | whitespace
  | newline
  | comment
  /-- The name of a rule or an option; as a value, a reference. -/
  | ident
  /-- A quoted literal with its quotes and escapes. -/
  | string
  /-- A pattern between slashes. -/
  | regex
  | number
  | true
  | false
  | kwDrop
  /-- Collapse to text and decode escapes. -/
  | kwTerminal
  /-- Collapse to text as it is. -/
  | kwRawTerminal
  | kwInline
  | kwPromoteError
  | kwNameAsError
  | question
  | star
  | plus
  | kwOption
  | kwTm
  | bang
  | pipe
  | equals
  | semicolon
  | comma
  | parenOpen
  | parenClose
  | braceOpen
  | braceClose
  | bracketOpen
  | bracketClose
  | error
  deriving DecidableEq, Repr

/-- The kinds of nodes. -/
inductive NodeKind where
  | root
  | optionDecl
  | definition
  /-- A definition that is used for highlighting only. -/
  | tmDefinition
  | property
  | marker
  | marked
  | sequence
  | choice
  | suffix
  | not
  | group
  | regexTerm
  | repeatCount
  deriving DecidableEq, Repr

/-- The kinds of everything in a syntax tree. -/
inductive SyntaxKind where
  | token (kind : TokenKind)
  | node (kind : NodeKind)
  deriving DecidableEq, Repr

namespace TokenKind

/-- All kinds of tokens, in order of their numbers. -/
def all : List TokenKind :=
  [.whitespace, .newline, .comment, .ident, .string, .regex, .number, .true, .false, .kwDrop,
    .kwTerminal, .kwRawTerminal, .kwInline, .kwPromoteError, .kwNameAsError, .question, .star,
    .plus, .kwOption, .kwTm, .bang, .pipe, .equals, .semicolon, .comma, .parenOpen, .parenClose,
    .braceOpen, .braceClose, .bracketOpen, .bracketClose, .error]

/-- The name of a kind of token. -/
def name : TokenKind → String
  | .whitespace => "Whitespace"
  | .newline => "Newline"
  | .comment => "Comment"
  | .ident => "Ident"
  | .string => "String"
  | .regex => "Regex"
  | .number => "Number"
  | .true => "True"
  | .false => "False"
  | .kwDrop => "KwDrop"
  | .kwTerminal => "KwTerminal"
  | .kwRawTerminal => "KwRawTerminal"
  | .kwInline => "KwInline"
  | .kwPromoteError => "KwPromoteError"
  | .kwNameAsError => "KwNameAsError"
  | .question => "Question"
  | .star => "Star"
  | .plus => "Plus"
  | .kwOption => "KwOption"
  | .kwTm => "KwTm"
  | .bang => "Bang"
  | .pipe => "Pipe"
  | .equals => "Equals"
  | .semicolon => "Semicolon"
  | .comma => "Comma"
  | .parenOpen => "ParenOpen"
  | .parenClose => "ParenClose"
  | .braceOpen => "BraceOpen"
  | .braceClose => "BraceClose"
  | .bracketOpen => "BracketOpen"
  | .bracketClose => "BracketClose"
  | .error => "Error"

/-- Whether the token has no meaning. -/
def isTrivia : TokenKind → Bool
  | .whitespace | .newline | .comment => Bool.true
  | _ => Bool.false

/-- Whether the token is the keyword of a marker. -/
def isMarkerKeyword : TokenKind → Bool
  | .kwDrop | .kwTerminal | .kwRawTerminal | .kwInline | .kwPromoteError | .kwNameAsError =>
    Bool.true
  | _ => Bool.false

/-- Whether the token is an operator behind its operand. -/
def isSuffixOperator : TokenKind → Bool
  | .question | .star | .plus => Bool.true
  | _ => Bool.false

/-- Whether the token only separates others. -/
def isPunctuation : TokenKind → Bool
  | .kwOption | .kwTm | .bang | .pipe | .equals | .semicolon | .comma | .parenOpen | .parenClose
  | .braceOpen | .braceClose | .bracketOpen | .bracketClose => Bool.true
  | _ => Bool.false

end TokenKind

namespace NodeKind

/-- All kinds of nodes, in order of their numbers. -/
def all : List NodeKind :=
  [.root, .optionDecl, .definition, .tmDefinition, .property, .marker, .marked, .sequence, .choice,
    .suffix, .not, .group, .regexTerm, .repeatCount]

/-- The name of a kind of node. -/
def name : NodeKind → String
  | .root => "Root"
  | .optionDecl => "OptionDecl"
  | .definition => "Definition"
  | .tmDefinition => "TmDefinition"
  | .property => "Property"
  | .marker => "Marker"
  | .marked => "Marked"
  | .sequence => "Sequence"
  | .choice => "Choice"
  | .suffix => "Suffix"
  | .not => "Not"
  | .group => "Group"
  | .regexTerm => "RegexTerm"
  | .repeatCount => "RepeatCount"

end NodeKind

namespace SyntaxKind

/-- All kinds, in order of their numbers. -/
def all : List SyntaxKind :=
  TokenKind.all.map .token ++ NodeKind.all.map .node

/-- The name of a kind. -/
def name : SyntaxKind → String
  | .token kind => kind.name
  | .node kind => kind.name

/-- The number of a kind. -/
def number (kind : SyntaxKind) : Nat :=
  all.idxOf kind

/-- The kind with a name. -/
def ofName? (name : String) : Option SyntaxKind :=
  all.find? fun kind => kind.name == name

end SyntaxKind

end Peg
