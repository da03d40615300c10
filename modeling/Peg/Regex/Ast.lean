/-!
# Patterns as written

The structure of a regular expression as its text spells it, before flags are applied.
-/

namespace Peg.Regex

/-- The flags that change the meaning of a part of a pattern. -/
inductive Flag where
  | caseInsensitive
  | multiLine
  | dotMatchesNewLine
  | swapGreed
  | unicode
  | crlf
  | ignoreWhitespace
  deriving DecidableEq, Repr

/-- An entry of a list of flags. The flags behind a negation are cleared. -/
inductive FlagItem where
  | negation
  | flag (flag : Flag)
  deriving DecidableEq, Repr

/-- The value that a list of flags gives to one of them, if it mentions it. -/
def flagState? (flag : Flag) (items : List FlagItem) : Option Bool :=
  if items.contains (.flag flag) then
    some (!(items.takeWhile (· != .flag flag)).contains .negation)
  else none

/-- A single character, and whether it is written as a byte of two hexadecimal digits. -/
structure Literal where
  char : Char
  isByte : Bool
  deriving DecidableEq, Repr

/-- The named classes of ASCII characters. -/
inductive AsciiClass where
  | alnum
  | alpha
  | ascii
  | blank
  | cntrl
  | digit
  | graph
  | lower
  | print
  | punct
  | space
  | upper
  | word
  | xdigit
  deriving DecidableEq, Repr

/-- The classes with an escape of one letter. -/
inductive ShortClass where
  | digit
  | space
  | word
  deriving DecidableEq, Repr

/-- How a Unicode property is asked for: by one letter, by a name, or by a name and a value, where
the relation may be an inequality. -/
inductive PropertyQuery where
  | letter (name : Char)
  | named (name : String)
  | valued (name value : String) (unequal : Bool)
  deriving DecidableEq, Repr

/-- The operations on bracketed classes. -/
inductive ClassOperator where
  | intersection
  | difference
  | symmetricDifference
  deriving DecidableEq, Repr

/-- The inside of a bracketed class. -/
inductive ClassSet where
  | literal (literal : Literal)
  | range (first last : Literal)
  | ascii (kind : AsciiClass) (negated : Bool)
  | short (kind : ShortClass) (negated : Bool)
  | property (query : PropertyQuery) (negated : Bool)
  | bracketed (negated : Bool) (inner : ClassSet)
  | union (items : List ClassSet)
  | operation (operator : ClassOperator) (left right : ClassSet)
  deriving Repr

/-- The assertions about a place between two characters. -/
inductive Assertion where
  | startLine
  | endLine
  | startText
  | endText
  | wordBoundary
  | notWordBoundary
  | wordStart
  | wordEnd
  | wordStartHalf
  | wordEndHalf
  deriving DecidableEq, Repr

/-- What a pair of parentheses is for. -/
inductive GroupKind where
  | capture
  | named (name : String)
  | flags (items : List FlagItem)
  deriving DecidableEq, Repr

/-- A pattern as written. -/
inductive Ast where
  | empty
  | flags (items : List FlagItem)
  | literal (literal : Literal)
  | dot
  | assertion (assertion : Assertion)
  | short (kind : ShortClass) (negated : Bool)
  | property (query : PropertyQuery) (negated : Bool)
  | bracketed (negated : Bool) (set : ClassSet)
  | repetition (min : Nat) (max : Option Nat) (greedy : Bool) (body : Ast)
  | group (kind : GroupKind) (body : Ast)
  | concat (parts : List Ast)
  | alternation (branches : List Ast)
  deriving Repr

mutual

/-- How deeply the inside of a bracketed class is nested. -/
def ClassSet.depth : ClassSet → Nat
  | .bracketed _ inner => inner.depth + 1
  | .union items => ClassSet.depthOfAll items + (if items.length < 2 then 0 else 1)
  | .operation _ left right => max left.depth right.depth + 1
  | _ => 0

/-- The greatest depth of several classes. -/
def ClassSet.depthOfAll : List ClassSet → Nat
  | [] => 0
  | item :: items => max item.depth (depthOfAll items)

end

mutual

/-- How deeply a pattern is nested. -/
def Ast.depth : Ast → Nat
  | .bracketed _ set => set.depth + 1
  | .repetition _ _ _ body => body.depth + 1
  | .group _ body => body.depth + 1
  | .concat parts => Ast.depthOfAll parts + 1
  | .alternation branches => Ast.depthOfAll branches + 1
  | _ => 0

/-- The greatest depth of several patterns. -/
def Ast.depthOfAll : List Ast → Nat
  | [] => 0
  | part :: parts => max part.depth (depthOfAll parts)

end

mutual

/-- The number of capturing groups in a pattern. -/
def Ast.captureCount : Ast → Nat
  | .repetition _ _ _ body => body.captureCount
  | .group (.flags _) body => body.captureCount
  | .group _ body => body.captureCount + 1
  | .concat parts => Ast.captureCountOfAll parts
  | .alternation branches => Ast.captureCountOfAll branches
  | _ => 0

/-- The number of capturing groups in several patterns. -/
def Ast.captureCountOfAll : List Ast → Nat
  | [] => 0
  | part :: parts => part.captureCount + captureCountOfAll parts

end

namespace Ast

/-- Several patterns in a row as one pattern. -/
def ofParts : List Ast → Ast
  | [] => .empty
  | [part] => part
  | parts => .concat parts

/-- Whether the pattern is a choice that no parentheses enclose. -/
def isAlternation : Ast → Bool
  | .alternation _ => true
  | _ => false

end Ast

end Peg.Regex
