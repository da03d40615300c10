import Peg.Regex.Ast
import Peg.Regex.FoldTable
import Peg.Regex.PropertyTable
import Peg.Text.Blank

/-!
# Sets of characters

The classes of patterns, built from ranges by the operations that patterns offer. A set is asked
whether it contains a code point and is never written out.
-/

namespace Peg.Regex

open Peg.Text

/-- The smallest code point that case-insensitive matching identifies with the given one. -/
def foldOf (code : Nat) : Nat :=
  (CodeShift.image? foldShifts code).getD code

/-- All code points that case-insensitive matching identifies with the given one. -/
def foldClass (code : Nat) : List Nat :=
  foldOf code :: CodeShift.preimages foldShifts (foldOf code)

/-- The letter of the other case, for ASCII letters. -/
def asciiSwap? (code : Nat) : Option Nat :=
  if 0x41 ≤ code && code ≤ 0x5a then some (code + 0x20)
  else if 0x61 ≤ code && code ≤ 0x7a then some (code - 0x20)
  else none

/-- A set of characters. Ranges and strides are in increasing order. -/
inductive CharSet where
  | ranges (ranges : List CodeRange)
  | strides (strides : List CodeStride)
  | union (left right : CharSet)
  | intersection (left right : CharSet)
  | difference (left right : CharSet)
  | symmetricDifference (left right : CharSet)
  | complement (inner : CharSet)
  /-- Closed under case-insensitive matching. -/
  | folded (inner : CharSet)
  /-- Closed under exchanging the cases of ASCII letters. -/
  | asciiFolded (inner : CharSet)
  deriving DecidableEq, Repr

namespace CharSet

/-- Whether the set contains a code point. -/
def contains : CharSet → Nat → Bool
  | .ranges rs, code => CodeRange.anyContains rs code
  | .strides ss, code => CodeStride.anyContains ss code
  | .union left right, code => left.contains code || right.contains code
  | .intersection left right, code => left.contains code && right.contains code
  | .difference left right, code => left.contains code && !right.contains code
  | .symmetricDifference left right, code => left.contains code != right.contains code
  | .complement inner, code => !inner.contains code
  | .folded inner, code => (foldClass code).any inner.contains
  | .asciiFolded inner, code =>
    inner.contains code || ((asciiSwap? code).map inner.contains).getD false

/-- The set without members. -/
def empty : CharSet :=
  .ranges []

/-- The set of the characters between two, both included. -/
def between (first last : Char) : CharSet :=
  .ranges [⟨first.toNat, last.toNat⟩]

/-- The set of one character. -/
def single (c : Char) : CharSet :=
  between c c

/-- The members of several sets. -/
def unionAll : List CharSet → CharSet
  | [] => empty
  | [set] => set
  | set :: sets => .union set (unionAll sets)

/-- The members of a set, or everything else. -/
def negatedIf (negated : Bool) (set : CharSet) : CharSet :=
  if negated then .complement set else set

/-- The result of an operator of bracketed classes. -/
def operate : ClassOperator → CharSet → CharSet → CharSet
  | .intersection => .intersection
  | .difference => .difference
  | .symmetricDifference => .symmetricDifference

/-- The ASCII characters of a named class. -/
def ofAscii : AsciiClass → CharSet
  | .alnum => .ranges [⟨0x30, 0x39⟩, ⟨0x41, 0x5a⟩, ⟨0x61, 0x7a⟩]
  | .alpha => .ranges [⟨0x41, 0x5a⟩, ⟨0x61, 0x7a⟩]
  | .ascii => .ranges [⟨0x0, 0x7f⟩]
  | .blank => .ranges [⟨0x9, 0x9⟩, ⟨0x20, 0x20⟩]
  | .cntrl => .ranges [⟨0x0, 0x1f⟩, ⟨0x7f, 0x7f⟩]
  | .digit => .ranges [⟨0x30, 0x39⟩]
  | .graph => .ranges [⟨0x21, 0x7e⟩]
  | .lower => .ranges [⟨0x61, 0x7a⟩]
  | .print => .ranges [⟨0x20, 0x7e⟩]
  | .punct => .ranges [⟨0x21, 0x2f⟩, ⟨0x3a, 0x40⟩, ⟨0x5b, 0x60⟩, ⟨0x7b, 0x7e⟩]
  | .space => .ranges [⟨0x9, 0xd⟩, ⟨0x20, 0x20⟩]
  | .upper => .ranges [⟨0x41, 0x5a⟩]
  | .word => .ranges [⟨0x30, 0x39⟩, ⟨0x41, 0x5a⟩, ⟨0x5f, 0x5f⟩, ⟨0x61, 0x7a⟩]
  | .xdigit => .ranges [⟨0x30, 0x39⟩, ⟨0x41, 0x46⟩, ⟨0x61, 0x66⟩]

/-- The members of a class with an escape of one letter, in all of Unicode. -/
def ofShort : ShortClass → CharSet
  | .digit => .ranges digitRanges
  | .space => .ranges blankRanges
  | .word => .ranges wordRanges

/-- The ASCII members of a class with an escape of one letter. -/
def ofShortAscii : ShortClass → CharSet
  | .digit => ofAscii .digit
  | .space => ofAscii .space
  | .word => ofAscii .word

end CharSet

end Peg.Regex
