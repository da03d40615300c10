import Peg.Parse.Machine

/-!
# Routines

Parsers written down directly in terms of the operations of the parsing machine, with rules in place
of rule numbers and pattern numbers in place of patterns.
-/

namespace Peg

/-- A parser without a rule table. -/
inductive Routine where
  | literal (text : String)
  | pattern (id : Nat)
  | sequence (left right : Routine)
  | choice (left right : Routine)
  | repetition (min : Nat) (max : Option Nat) (body : Routine)
  | not (body : Routine)
  | drop (body : Routine)
  | terminal (decode : Bool) (body : Routine)
  | errorName (label : String) (promote : Bool) (body : Routine)
  | rule (name : String) (capture : Bool) (body : Routine)
  deriving DecidableEq, Repr

/-- Run a routine. -/
def Routine.run (e : Setting) : Routine → ParseState → ParseTree → Outcome
  | .literal text, s, node => Step.literal e text s node
  | .pattern id, s, node => Step.pattern e id s node
  | .sequence left right, s, node => Step.sequence (left.run e) (right.run e) s node
  | .choice left right, s, node => Step.choice (left.run e) (right.run e) s node
  | .repetition min max body, s, node => Step.repetition e min max (body.run e) s node
  | .not body, s, node => Step.not (body.run e) s node
  | .drop body, s, node => Step.drop (body.run e) s node
  | .terminal decode body, s, node => Step.terminal e decode (body.run e) s node
  | .errorName label promote body, s, node =>
    Step.errorName label promote (body.run e) s node
  | .rule name capture body, s, node => Step.call e name capture (body.run e) s node

end Peg
