import Peg.SyntaxTree

/-!
# Building syntax trees

A tree is built from left to right. A node can also be started before parts that have been added
already, which is how operators behind their operands are handled.
-/

namespace Peg

/-- The finished parts, latest first, and the nodes that have been started, innermost first, each
with the number of parts that were finished before it. -/
structure TreeBuilder where
  parts : List SyntaxTree
  started : List (NodeKind × Nat)
  deriving Repr

namespace TreeBuilder

/-- Nothing has been built yet. -/
def empty : TreeBuilder :=
  ⟨[], []⟩

/-- The place behind everything that has been finished. -/
def checkpoint (b : TreeBuilder) : Nat :=
  b.parts.length

/-- Start a node at a checkpoint, which must not lie before the innermost node that has been
started. -/
def startAt? (b : TreeBuilder) (checkpoint : Nat) (kind : NodeKind) : Option TreeBuilder :=
  let first := ((b.started.head?).map Prod.snd).getD 0
  if first ≤ checkpoint ∧ checkpoint ≤ b.parts.length then
    some { b with started := (kind, checkpoint) :: b.started }
  else none

/-- Start a node. -/
def start (b : TreeBuilder) (kind : NodeKind) : TreeBuilder :=
  { b with started := (kind, b.checkpoint) :: b.started }

/-- Add a token. -/
def token (b : TreeBuilder) (kind : TokenKind) (text : String) : TreeBuilder :=
  { b with parts := .token kind text :: b.parts }

/-- Finish the innermost node. -/
def finish? (b : TreeBuilder) : Option TreeBuilder :=
  match b.started with
  | [] => none
  | (kind, first) :: started =>
    let count := b.parts.length - first
    some ⟨.node kind (b.parts.take count).reverse :: b.parts.drop count, started⟩

/-- The tree that has been built, provided that it is complete. -/
def tree? (b : TreeBuilder) : Option SyntaxTree :=
  match b.parts, b.started with
  | [.node kind children], [] => some (.node kind children)
  | _, _ => none

end TreeBuilder

end Peg
