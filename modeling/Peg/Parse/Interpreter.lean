import Peg.Parse.Machine

/-!
# Running programs

The rules of a program are run directly. The number of calls that may still be nested bounds the
recursion, and a call that exceeds it brings the parse to a halt.
-/

namespace Peg

/-- A program with its compiled patterns. -/
structure Interpreter where
  program : Program
  patterns : PatternTable
  /-- The greatest number of nested rule calls. -/
  limit : Nat
  compiled : PatternTable.ofPatterns program.patterns = .ok patterns

namespace Interpreter

/-- Compile the patterns of a program. -/
def ofProgram (program : Program) (limit : Nat) : Except ParseError Interpreter :=
  match h : PatternTable.ofPatterns program.patterns with
  | .ok patterns => .ok ⟨program, patterns, limit, h⟩
  | .error error => .error error

/-- What stays the same while the program parses an input. -/
def setting (i : Interpreter) (input : List Char) : Setting :=
  ⟨input, i.patterns, i.limit⟩

/-- Run a combinator, given the steps of rule calls. -/
def eval (e : Setting) (callee : RuleId → Step) :
    Combinator → ParseState → ParseTree → Outcome
  | .literal text, s, node => Step.literal e text s node
  | .pattern source times, s, node =>
    match e.patterns.indexOf? source times with
    | some id => Step.pattern e id s node
    | none => ⟨.halted (.uncompiledPattern source), s, node⟩
  | .sequence left right, s, node =>
    Step.sequence (eval e callee left) (eval e callee right) s node
  | .choice left right, s, node =>
    Step.choice (eval e callee left) (eval e callee right) s node
  | .repetition min max body, s, node => Step.repetition e min max (eval e callee body) s node
  | .not body, s, node => Step.not (eval e callee body) s node
  | .drop body, s, node => Step.drop (eval e callee body) s node
  | .terminal decode body, s, node => Step.terminal e decode (eval e callee body) s node
  | .errorName label promote body, s, node =>
    Step.errorName label promote (eval e callee body) s node
  | .call rule, s, node => callee rule s node

/-- Call a rule when `budget` more calls may be nested. No program calls a rule that it does not
have. -/
def call (e : Setting) (program : Program) :
    Nat → RuleId → ParseState → ParseTree → Outcome
  | 0, _, s, node => ⟨.halted (.recursionLimitExceeded e.limit), s, node⟩
  | budget + 1, id, s, node =>
    match program.rule? id with
    | some rule =>
      Step.call e rule.name rule.capture (eval e (call e program budget) rule.body) s node
    | none => ⟨.failed, s, node⟩

/-- Parse an input from a rule. The events are returned as well, in order. -/
def parseFrom (i : Interpreter) (rule : RuleId) (input : List Char) :
    Except ParseError (Parse × List Event) :=
  let e := i.setting input
  match runStep e (call e i.program i.limit rule) .initial with
  | (.ok parse, s) => .ok (parse, s.trace.reverse)
  | (.error error, _) => .error error

/-- Parse an input from the entry rule of the program. -/
def parse (i : Interpreter) (input : String) : Except ParseError Parse := do
  let (parse, _) ← i.parseFrom i.program.entry input.toList
  return parse

end Interpreter

end Peg
