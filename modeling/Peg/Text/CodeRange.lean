/-!
# Ranges of code points

Tables of Unicode data are lists of ranges in increasing order. A stride of two covers the blocks
in which upper-case and lower-case letters alternate, and a shift adds the distance to the letter
that every member of a stride is mapped to.
-/

namespace Peg.Text

/-- The code points from `first` to `last`, both included. -/
structure CodeRange where
  first : Nat
  last : Nat
  deriving DecidableEq, Repr

/-- Every `step`-th code point from `first` to `last`. -/
structure CodeStride where
  first : Nat
  last : Nat
  step : Nat
  deriving DecidableEq, Repr

/-- A stride whose members all lie at the same distance from their images. -/
structure CodeShift where
  stride : CodeStride
  distance : Int
  deriving DecidableEq, Repr

namespace CodeRange

/-- Whether the code point lies in the range. -/
def contains (r : CodeRange) (code : Nat) : Bool :=
  r.first ≤ code && code ≤ r.last

/-- Whether the code point lies in one of the ranges. The list is in increasing order, so the scan
stops at the first range that starts later. -/
def anyContains : List CodeRange → Nat → Bool
  | [], _ => false
  | r :: rest, code =>
    if code < r.first then false else if code ≤ r.last then true else anyContains rest code

end CodeRange

namespace CodeStride

/-- Whether the code point is a member of the stride. -/
def contains (s : CodeStride) (code : Nat) : Bool :=
  s.first ≤ code && code ≤ s.last && (code - s.first) % s.step == 0

/-- Whether the code point is a member of one of the strides, which are in increasing order of
their first members. -/
def anyContains : List CodeStride → Nat → Bool
  | [], _ => false
  | s :: rest, code =>
    if code < s.first then false else s.contains code || anyContains rest code

end CodeStride

namespace CodeShift

/-- The image of a code point under the first shift that covers it. -/
def image? : List CodeShift → Nat → Option Nat
  | [], _ => none
  | s :: rest, code =>
    if code < s.stride.first then none
    else if s.stride.contains code then some ((code : Int) + s.distance).toNat
    else image? rest code

/-- Every code point that one of the shifts maps to `image`, in increasing order of the table. -/
def preimages (shifts : List CodeShift) (image : Nat) : List Nat :=
  shifts.filterMap fun s =>
    let code := ((image : Int) - s.distance).toNat
    if s.stride.contains code then some code else none

end CodeShift

end Peg.Text
