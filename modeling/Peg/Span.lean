/-!
# Spans

Parts of a source text, given by the byte offsets of their ends.
-/

namespace Peg

/-- The bytes from `start` up to and without `stop`. -/
structure Span where
  start : Nat
  stop : Nat
  deriving DecidableEq, Repr

namespace Span

/-- The smallest span that includes two others. -/
def cover (a b : Span) : Span :=
  ⟨min a.start b.start, max a.stop b.stop⟩

/-- Whether the span has no bytes. -/
def isEmpty (s : Span) : Bool :=
  s.start == s.stop

/-- A span as messages show it. -/
def render (s : Span) : String :=
  s!"{s.start}..{s.stop}"

end Span

end Peg
