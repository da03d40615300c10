import Peg.Combinator
import Peg.Text.Offset

/-!
# The furthest failure

Only the rightmost place at which something failed matters for the message about a failed parse. A
failure to the left of it belongs to a branch that was given up, one at the same place adds another
expectation, and one further right starts afresh.
-/

namespace Peg

open Peg.Text

/-- What is expected where a match ends before the input does. -/
def endOfInput : String := "end of input"

/-- The rightmost failure so far and what was expected there, in order of first mention. -/
structure FurthestFailure where
  position : Nat
  expected : List String
  deriving DecidableEq, Repr

namespace FurthestFailure

/-- Nothing has failed yet. -/
def none : FurthestFailure :=
  ⟨0, []⟩

/-- Take note of a failure. -/
def record (f : FurthestFailure) (position : Nat) (label : String) : FurthestFailure :=
  if position < f.position then f
  else if f.position < position then ⟨position, [label]⟩
  else if f.expected.contains label then f
  else { f with expected := f.expected ++ [label] }

/-- Take note of a match. Past the furthest failure it makes the expectations obsolete. -/
def reached (f : FurthestFailure) (stop : Nat) : FurthestFailure :=
  if f.position < stop then { f with expected := [] } else f

/-- The character found at an offset, or the end of the input. -/
def found (input : List Char) (position : Nat) : String :=
  match charAt? input position with
  | some c => s!"`{quote (String.singleton c)}`"
  | Option.none => endOfInput

/-- Several expectations as one phrase. -/
def phrase : List String → String
  | [] => ""
  | [label] => label
  | labels => ", ".intercalate labels.dropLast ++ " or " ++ labels.getLastD ""

/-- What is told about the failure. -/
def describe (f : FurthestFailure) (input : List Char) : String :=
  if f.expected.isEmpty then s!"Unexpected {found input f.position}"
  else s!"Expected {phrase f.expected}, found {found input f.position}"

end FurthestFailure

end Peg
