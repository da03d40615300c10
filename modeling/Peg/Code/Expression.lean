import Peg.Program
import Peg.Text.Quoted

/-!
# Expressions of generated code

The call of the parsing library for each operation. Operands are passed as closures, patterns as
their places in the list of patterns, and rules as calls of their functions.
-/

namespace Peg.Code

open Peg.Text

/-- A truth value in code. -/
def boolean (value : Bool) : String :=
  if value then "true" else "false"

/-- An upper bound in code. -/
def bound : Option Nat → String
  | some max => s!"Some({max})"
  | none => "None"

/-- An operand in code, which is passed as a closure. -/
def closure (body : String) : String :=
  s!"|p, n| {body}"

/-- The place of a pattern in the list of patterns. -/
def patternIndex (patterns : List (String × Nat)) (source : String) (times : Nat) : Nat :=
  (patterns.idxOf? (source, times)).getD 0

/-- The expression for an operation, where `functions` are the functions of the rules. -/
def expression (patterns : List (String × Nat)) (functions : List String) : Combinator → String
  | .literal text => s!"p.literal(n, {Quoted.literal text})"
  | .pattern source times => s!"p.pattern(n, {patternIndex patterns source times})"
  | .sequence left right =>
    let left := closure (expression patterns functions left)
    s!"p.sequence(n, {left}, {closure (expression patterns functions right)})"
  | .choice left right =>
    let left := closure (expression patterns functions left)
    s!"p.choice(n, {left}, {closure (expression patterns functions right)})"
  | .repetition min max body =>
    s!"p.repeat(n, {min}, {bound max}, {closure (expression patterns functions body)})"
  | .not body => s!"p.not(n, {closure (expression patterns functions body)})"
  | .drop body => s!"p.drop(n, {closure (expression patterns functions body)})"
  | .terminal decode body =>
    s!"p.terminal(n, {boolean decode}, {closure (expression patterns functions body)})"
  | .errorName label promote body =>
    let options := s!"{Quoted.literal label}, {boolean promote}"
    s!"p.error_name(n, {options}, {closure (expression patterns functions body)})"
  | .call rule =>
    let function := (functions[rule.index]?).getD ""
    s!"{function}(p, n)"

end Peg.Code
