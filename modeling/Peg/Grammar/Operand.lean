import Peg.Grammar
import Peg.ScopedStack

/-!
# Operands

What the parts of a grammar's syntax tree amount to while the grammar is being put together: values
that wait on a stack for the node around them.
-/

namespace Peg

/-- An operator behind its operand. -/
inductive SuffixOperator where
  | optional
  | zeroOrMore
  | oneOrMore
  deriving DecidableEq, Repr

namespace SuffixOperator

/-- The character of an operator. -/
def symbol : SuffixOperator → String
  | .optional => "?"
  | .zeroOrMore => "*"
  | .oneOrMore => "+"

/-- An operator applied to its operand. -/
def apply (span : Span) (body : Element) : SuffixOperator → Element
  | .optional => .optional span body
  | .zeroOrMore => .zeroOrMore span body
  | .oneOrMore => .oneOrMore span body

end SuffixOperator

/-- A value that waits for the node around it. -/
inductive Operand where
  | element (value : Element)
  | marker (value : Marker) (span : Span)
  | operator (value : SuffixOperator) (span : Span)
  | repeatCount (count : Nat) (span : Span)
  | property (value : Attribute)
  | option (value : Attribute)
  | definition (value : Definition)
  deriving DecidableEq, Repr

/-- What may stand directly below the root. -/
inductive TopLevel where
  | definition (value : Definition)
  | option (value : Attribute)
  deriving DecidableEq, Repr

namespace Operand

/-- What an operand is called in messages. -/
def describe : Operand → String
  | .element e => e.describe
  | .marker _ _ => "marker"
  | .operator _ _ => "suffix operator"
  | .repeatCount _ _ => "repeat count"
  | .property _ => "property"
  | .option _ => "option"
  | .definition _ => "definition"

/-- Elements. -/
def elementKind : ItemKind Operand Element :=
  .ofReading "element" fun
    | .element e => some e
    | _ => none

/-- Markers with their places. -/
def markerKind : ItemKind Operand (Marker × Span) :=
  .ofReading "marker" fun
    | .marker m span => some (m, span)
    | _ => none

/-- Operators with their places. -/
def operatorKind : ItemKind Operand (SuffixOperator × Span) :=
  .ofReading "suffix operator" fun
    | .operator o span => some (o, span)
    | _ => none

/-- Repeat counts. -/
def repeatCountKind : ItemKind Operand Nat :=
  .ofReading "repeat count" fun
    | .repeatCount count _ => some count
    | _ => none

/-- Properties. -/
def propertyKind : ItemKind Operand Attribute :=
  .ofReading "property" fun
    | .property a => some a
    | _ => none

/-- Definitions and options. -/
def topLevelKind : ItemKind Operand TopLevel :=
  .ofReading "definition or option" fun
    | .definition d => some (.definition d)
    | .option a => some (.option a)
    | _ => none

end Operand

namespace TopLevel

/-- The definition among the two. -/
def definition? : TopLevel → Option Definition
  | .definition d => some d
  | .option _ => none

/-- The option among the two. -/
def option? : TopLevel → Option Attribute
  | .definition _ => none
  | .option a => some a

end TopLevel

end Peg
