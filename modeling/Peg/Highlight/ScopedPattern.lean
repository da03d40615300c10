import Peg.Grammar.Operand
import Peg.Regex.Quote
import Peg.Regex.Search

/-!
# Patterns with scopes

A regular expression in which some of the groups stand for scopes. It can be written as a pattern,
and its scopes are listed in the order in which their groups open, which is that of the group
numbers.
-/

namespace Peg

/-- A regular expression with scopes. -/
inductive ScopedPattern where
  /-- Exactly this text. -/
  | literal (text : String)
  /-- A pattern that the author of the grammar wrote, `times` times in a row. -/
  | regex (source : String) (times : Nat)
  | sequence (left right : ScopedPattern)
  | repeated (operator : SuffixOperator) (body : ScopedPattern)
  /-- Matches nothing where the body would match. -/
  | notAhead (body : ScopedPattern)
  /-- The body as one unit. -/
  | group (body : ScopedPattern)
  /-- The body as one unit with a scope. -/
  | capture (scope : String) (body : ScopedPattern)
  deriving DecidableEq, Repr

/-- A scope and the number of the group that it is for. -/
structure Capture where
  index : Nat
  scope : String
  deriving DecidableEq, Repr

namespace ScopedPattern

/-- A group that has no number. -/
def plainGroup (body : String) : String :=
  s!"(?:{body})"

/-- A pattern that something can be put behind. -/
def renderRegex (source : String) (times : Nat) : String :=
  if 1 < times then plainGroup source ++ s!"\x7b{times}\x7d"
  else if Regex.isChoice source then plainGroup source
  else source

/-- The text of the pattern. -/
def render : ScopedPattern → String
  | .literal text => Regex.quote text
  | .regex source times => renderRegex source times
  | .sequence left right => left.render ++ right.render
  | .repeated operator body => plainGroup body.render ++ operator.symbol
  | .notAhead body => s!"(?!{body.render})"
  | .group body => plainGroup body.render
  | .capture _ body => s!"({body.render})"

/-- The scopes in the order in which their groups open. -/
def scopes : ScopedPattern → List String
  | .literal _ | .regex _ _ => []
  | .sequence left right => left.scopes ++ right.scopes
  | .repeated _ body | .notAhead body | .group body => body.scopes
  | .capture scope body => scope :: body.scopes

/-- The scopes with the numbers of their groups. -/
def captures (p : ScopedPattern) : List Capture :=
  p.scopes.mapIdx fun i scope => ⟨i + 1, scope⟩

end ScopedPattern

end Peg
