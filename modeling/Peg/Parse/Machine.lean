import Peg.Message
import Peg.Parse.Failure
import Peg.Parse.PatternTable
import Peg.Parse.Trace
import Peg.Parse.Tree

/-!
# The parsing machine

Every operation of a parser is a step that takes the state of the parse and the node to which it
contributes. A step that fails leaves the cursor where it started and the node untouched. Output is
collected in a node of its own and handed over when the step has matched.
-/

namespace Peg

open Peg.Text

/-- What stays the same during a parse. -/
structure Setting where
  input : List Char
  patterns : PatternTable
  /-- The greatest number of nested rule calls. -/
  limit : Nat
  deriving Repr

/-- The number of nested rule calls that is allowed unless stated otherwise. -/
def defaultLimit : Nat := 1024

/-- A label that replaces expectations. With `promote` it replaces those at `start` only. -/
structure LabelOverride where
  label : String
  promote : Bool
  start : Nat
  deriving DecidableEq, Repr

/-- The state of a parse. -/
structure ParseState where
  position : Nat
  failure : FurthestFailure
  /-- The labels in force, innermost first. -/
  labels : List LabelOverride
  /-- The number of lookaheads under way. What fails inside one is not reported. The number is
  unbounded here, where a counter of 32 bits is enough for fewer than `2 ^ 32` lookaheads inside one
  another. -/
  suppress : Nat
  /-- The number of rule calls under way. The number is unbounded here, where a counter of 32 bits
  is enough: by `Evaluation.Regular.depth_le` it does not exceed the limit, which has 32 bits
  itself. -/
  depth : Nat
  /-- The events so far, latest first. -/
  trace : List Event
  deriving DecidableEq, Repr

/-- How a step ends. -/
inductive Verdict where
  | matched
  | failed
  | halted (error : ParseError)
  deriving DecidableEq, Repr

/-- How a step ends, and what it leaves behind. -/
structure Outcome where
  verdict : Verdict
  state : ParseState
  node : ParseTree
  deriving Repr

/-- An operation of a parser. -/
abbrev Step := ParseState → ParseTree → Outcome

namespace ParseState

/-- The state at the start of the first parse. -/
def initial : ParseState :=
  ⟨0, .none, [], 0, 0, []⟩

/-- The state at the start of a further parse. Only the trace continues. -/
def restart (s : ParseState) : ParseState :=
  { initial with trace := s.trace }

/-- Take note of an event. -/
def emit (s : ParseState) (event : Event) : ParseState :=
  { s with trace := event :: s.trace }

/-- Move the cursor back. -/
def restore (s : ParseState) (target : Nat) : ParseState :=
  if s.position = target then s
  else { s.emit (.backtrack s.position target) with position := target }

/-- What is reported as expected at an offset when `natural` is. The innermost label in force that
applies there takes precedence. -/
def labelAt (s : ParseState) (position : Nat) (natural : String) : String :=
  match s.labels.find? fun o => !o.promote || o.start = position with
  | some o => o.label
  | none => natural

/-- Take note of a failure at the cursor. -/
def fail (s : ParseState) (natural : String) : ParseState :=
  let s := s.emit (.failure natural s.position)
  if 0 < s.suppress then s
  else { s with failure := s.failure.record s.position (s.labelAt s.position natural) }

/-- Move the cursor behind a match and take note of it. -/
def accept (s : ParseState) (stop : Nat) : ParseState :=
  let failure := if s.suppress = 0 then s.failure.reached stop else s.failure
  { s.emit (.success s.position stop) with position := stop, failure := failure }

end ParseState

namespace Step

/-- Match the input up to an offset, which yields a leaf. -/
def accept (e : Setting) (stop : Nat) : Step := fun s node =>
  let text := String.ofList (slice e.input s.position stop)
  ⟨.matched, s.accept stop, node.addChild (.leaf text s.position stop)⟩

/-- Fail where something is expected. -/
def reject (natural : String) : Step := fun s node =>
  ⟨.failed, s.fail natural, node⟩

/-- Match exactly a text. -/
def literal (e : Setting) (text : String) : Step := fun s node =>
  if text.toList.isPrefixOf (dropBytes e.input s.position) then
    accept e (s.position + byteLength text.toList) s node
  else reject (literalLabel text) s node

/-- Match the pattern with a number. -/
def pattern (e : Setting) (id : Nat) : Step := fun s node =>
  match e.patterns.matchAt id e.input s.position with
  | .error error => ⟨.halted error, s, node⟩
  | .ok (some stop) => accept e stop s node
  | .ok none =>
    let source := ((e.patterns.entry? id).map PatternTable.Entry.source).getD ""
    reject (patternLabel source) s node

/-- Match one step behind another. -/
def sequence (left right : Step) : Step := fun s node =>
  let l := left s .empty
  match l.verdict with
  | .halted error => ⟨.halted error, l.state, node⟩
  | .failed => ⟨.failed, l.state.restore s.position, node⟩
  | .matched =>
    let r := right l.state l.node
    match r.verdict with
    | .halted error => ⟨.halted error, r.state, node⟩
    | .failed => ⟨.failed, r.state.restore s.position, node⟩
    | .matched => ⟨.matched, r.state, node.splice r.node⟩

/-- Match the first of two steps that succeeds. -/
def choice (left right : Step) : Step := fun s node =>
  let l := left s .empty
  match l.verdict with
  | .halted error => ⟨.halted error, l.state, node⟩
  | .matched => ⟨.matched, l.state, node.splice l.node⟩
  | .failed =>
    let r := right (l.state.restore s.position) .empty
    match r.verdict with
    | .halted error => ⟨.halted error, r.state, node⟩
    | .matched => ⟨.matched, r.state, node.splice r.node⟩
    | .failed => ⟨.failed, r.state.restore s.position, node⟩

/-- How a loop ends: by an error, or with a number of matches and their output. -/
structure LoopOutcome where
  error? : Option ParseError
  /-- The number of matches. The number is unbounded here, where a counter of 32 bits is enough for
  an input of fewer than `2 ^ 32 - 2` bytes, by `LoopEnds.count_lt`. -/
  count : Nat
  state : ParseState
  node : ParseTree
  deriving Repr

/-- Whether a loop with this many matches may go on. -/
def mayContinue (max : Option Nat) (count : Nat) : Bool :=
  match max with
  | some max => count < max
  | none => true

/-- Match the body until it fails, matches without consuming anything, or the maximum is reached.
Every further turn consumes some input, which bounds their number. -/
def loop (max : Option Nat) (body : Step) :
    Nat → Nat → ParseState → ParseTree → LoopOutcome
  | 0, count, s, node => ⟨none, count, s, node⟩
  | fuel + 1, count, s, node =>
    if mayContinue max count then
      let r := body s .empty
      match r.verdict with
      | .halted error => ⟨some error, count, r.state, node⟩
      | .failed => ⟨none, count, r.state.restore s.position, node⟩
      | .matched =>
        if r.state.position = s.position then ⟨none, count + 1, r.state, node.splice r.node⟩
        else loop max body fuel (count + 1) r.state (node.splice r.node)
    else ⟨none, count, s, node⟩

/-- Match the body as often as possible, within the bounds. -/
def repetition (e : Setting) (min : Nat) (max : Option Nat) (body : Step) : Step := fun s node =>
  let r := loop max body (byteLength e.input - s.position + 1) 0 s .empty
  match r.error? with
  | some error => ⟨.halted error, r.state, node⟩
  | none =>
    if r.count < min then ⟨.failed, r.state.restore s.position, node⟩
    else ⟨.matched, r.state, node.splice r.node⟩

/-- Succeed without consuming anything when the body fails. -/
def not (body : Step) : Step := fun s node =>
  let r := body { s with suppress := s.suppress + 1 } .empty
  let after := { r.state with suppress := r.state.suppress - 1 }
  match r.verdict with
  | .halted error => ⟨.halted error, after, node⟩
  | .matched => ⟨.failed, after.restore s.position, node⟩
  | .failed => ⟨.matched, after.restore s.position, node⟩

/-- Match the body and keep none of its output. -/
def drop (body : Step) : Step := fun s node =>
  let r := body s .empty
  ⟨r.verdict, r.state, node⟩

/-- Match the body and add the matched text to the text of the node. -/
def terminal (e : Setting) (decode : Bool) (body : Step) : Step := fun s node =>
  let r := body s .empty
  match r.verdict with
  | .halted error => ⟨.halted error, r.state, node⟩
  | .failed => ⟨.failed, r.state, node⟩
  | .matched =>
    let text := String.ofList (slice e.input s.position r.state.position)
    ⟨.matched, r.state, node.addText (if decode then unescape text else text)⟩

/-- Report failures inside the body under a label. -/
def errorName (label : String) (promote : Bool) (body : Step) : Step := fun s node =>
  let r := body { s with labels := ⟨label, promote, s.position⟩ :: s.labels } node
  ⟨r.verdict, { r.state with labels := r.state.labels.tail }, r.node⟩

/-- Call a rule with the given body. The output of a captured rule is one node, that of any other
rule goes to the caller. -/
def call (e : Setting) (name : String) (capture : Bool) (body : Step) : Step := fun s node =>
  if e.limit ≤ s.depth then ⟨.halted (.recursionLimitExceeded e.limit), s, node⟩
  else
    let entered := { s.emit (.enter name s.position) with depth := s.depth + 1 }
    let r := body entered (.ofRule name s.position)
    let after := { r.state with depth := r.state.depth - 1 }
    match r.verdict with
    | .halted error => ⟨.halted error, after, node⟩
    | .failed =>
      ⟨.failed, (after.emit (.exit name after.position false)).restore s.position, node⟩
    | .matched =>
      let child := { r.node with stop := after.position }
      ⟨.matched, after.emit (.exit name after.position true),
        if capture then node.addChild child else node.splice child⟩

end Step

/-- The result of parsing a whole input. -/
structure Parse where
  success : Bool
  /-- The node that holds the output of the entry rule. -/
  root : ParseTree
  /-- One error unless the parse succeeded. -/
  messages : List Message
  failureOffset : Option Nat
  deriving Repr

namespace Parse

/-- The node of the entry rule, if that is captured. -/
def tree? (p : Parse) : Option ParseTree :=
  p.root.children.head?.filter fun t => !t.isLeaf

end Parse

/-- Run a step from the start of the input and require it to consume everything. The state behind
the run is returned as well. -/
def runStep (e : Setting) (entry : Step) (s : ParseState) :
    Except ParseError Parse × ParseState :=
  let r := entry s.restart .empty
  let root := { r.node with stop := r.state.position }
  let failedParse (s : ParseState) : Parse :=
    let position := (LineIndex.ofChars e.input).position s.failure.position
    ⟨false, root, [.error (s.failure.describe e.input) position], some s.failure.position⟩
  match r.verdict with
  | .halted error => (.error error, r.state)
  | .failed => (.ok (failedParse r.state), r.state)
  | .matched =>
    if r.state.position = byteLength e.input then (.ok ⟨true, root, [], none⟩, r.state)
    else
      let s := r.state.fail endOfInput
      (.ok (failedParse s), s)

end Peg
