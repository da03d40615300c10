import Peg.Grammar.Operand
import Peg.SyntaxTree.Kind

/-!
# Malformed grammars

Why a syntax tree does not make a grammar, and where.
-/

namespace Peg

/-- What is wrong with a syntax tree. -/
inductive Malformed where
  /-- A node lacks a part, or has another part in its place. -/
  | stack (cause : StackError) (kind : NodeKind) (span : Span)
  /-- A node has a part that it has no use for. -/
  | leftover (kind : NodeKind) (found : String) (span : Span)
  | orphanOperator (operator : SuffixOperator) (span : Span)
  | emptyOperator (kind : NodeKind) (span : Span)
  | invalidValue (found : String) (span : Span)
  | invalidRepeatCount (text : String) (span : Span)
  | expectedRegex (found : String) (span : Span)
  | unexpectedKind (kind : SyntaxKind) (span : Span)
  | grammar (cause : GrammarError)
  deriving DecidableEq, Repr

namespace Malformed

/-- What is reported for a malformed tree. -/
def message : Malformed → String
  | .stack cause kind _ => s!"malformed {kind.name} node: {cause.message}"
  | .leftover kind found _ => s!"unexpected {found} left over in {kind.name} node"
  | .orphanOperator operator _ => s!"suffix operator `{operator.symbol}` has no operand"
  | .emptyOperator kind _ => s!"{kind.name} node contains no elements"
  | .invalidValue found _ => s!"{found} cannot be used as a value"
  | .invalidRepeatCount text _ => s!"invalid repeat count `{text}`"
  | .expectedRegex found _ => s!"repeat count applied to {found}, expected a regex"
  | .unexpectedKind kind _ => s!"unexpected {kind.name} in grammar tree"
  | .grammar cause => cause.message

/-- The place that is reported. -/
def span : Malformed → Span
  | .stack _ _ s | .leftover _ _ s | .orphanOperator _ s | .emptyOperator _ s | .invalidValue _ s
  | .invalidRepeatCount _ s | .expectedRegex _ s | .unexpectedKind _ s => s
  | .grammar cause => cause.span

end Malformed

end Peg
