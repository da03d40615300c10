import Peg.Text.Escape

/-!
# Combinators

The backtracking operations that a parser is made of.
-/

namespace Peg

/-- The number of a rule in its program. -/
structure RuleId where
  index : Nat
  deriving DecidableEq, Repr

/-- The number of the rule at a place. Numbers have 16 bits, and higher ones are cut off. -/
def RuleId.ofPlace (place : Nat) : RuleId :=
  ⟨place % 65536⟩

/-- A rule number as outlines and errors show it. -/
def RuleId.render (id : RuleId) : String :=
  s!"R{id.index}"

/-- A parsing operation. -/
inductive Combinator where
  /-- Exactly this text. -/
  | literal (text : String)
  /-- A regular expression, `times` times in a row. -/
  | pattern (source : String) (times : Nat)
  | sequence (left right : Combinator)
  /-- The right operand is tried only when the left one fails. -/
  | choice (left right : Combinator)
  /-- The body as often as possible, within the bounds. -/
  | repetition (min : Nat) (max : Option Nat) (body : Combinator)
  /-- Succeeds without consuming anything when the body fails. -/
  | not (body : Combinator)
  /-- Matches the body and keeps none of its output. -/
  | drop (body : Combinator)
  /-- Matches the body and keeps only the matched text, with or without decoding its escapes. -/
  | terminal (decode : Bool) (body : Combinator)
  /-- Reports failures inside the body under a label; with `promote`, only those at its start. -/
  | errorName (label : String) (promote : Bool) (body : Combinator)
  | call (rule : RuleId)
  deriving DecidableEq, Repr

/-- What is expected where a literal fails to match. -/
def literalLabel (text : String) : String :=
  s!"literal `{Text.quote text}`"

/-- What is expected where a pattern fails to match. -/
def patternLabel (source : String) : String :=
  s!"pattern `/{source}/`"

namespace Combinator

/-- The body or nothing. -/
def optional (body : Combinator) : Combinator :=
  .repetition 0 (some 1) body

/-- The body any number of times. -/
def zeroOrMore (body : Combinator) : Combinator :=
  .repetition 0 none body

/-- The body at least once. -/
def oneOrMore (body : Combinator) : Combinator :=
  .repetition 1 none body

/-- What is expected where a leaf fails to match. -/
def expectation? : Combinator → Option String
  | .literal text => some (literalLabel text)
  | .pattern source _ => some (patternLabel source)
  | _ => none

/-- The direct operands from left to right. -/
def operands : Combinator → List Combinator
  | .sequence left right | .choice left right => [left, right]
  | .repetition _ _ body | .not body | .drop body | .terminal _ body | .errorName _ _ body =>
    [body]
  | .literal _ | .pattern _ _ | .call _ => []

/-- The combinator and everything below it, each operation before its operands. -/
def preorder : Combinator → List Combinator
  | c@(.sequence left right) | c@(.choice left right) => c :: left.preorder ++ right.preorder
  | c@(.repetition _ _ body) | c@(.not body) | c@(.drop body) | c@(.terminal _ body)
  | c@(.errorName _ _ body) => c :: body.preorder
  | c@(.literal _) | c@(.pattern _ _) | c@(.call _) => [c]

/-- The rules called, in the order of the calls. -/
def calls (c : Combinator) : List RuleId :=
  c.preorder.filterMap fun
    | .call rule => some rule
    | _ => none

/-- The patterns used with their repeat counts, in the order of their uses. -/
def patterns (c : Combinator) : List (String × Nat) :=
  c.preorder.filterMap fun
    | .pattern source times => some (source, times)
    | _ => none

end Combinator

end Peg
