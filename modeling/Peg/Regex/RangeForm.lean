import Peg.Regex.CharSet

/-!
# Sets as ranges

Every set of characters as increasing ranges with gaps between them. Sets built in different ways
have the same members when they have the same ranges, so their ranges are what is compared.
-/

namespace Peg.Regex

open Peg.Text

namespace CharSet

/-- The ranges that start with `r` and go on with others, which are in increasing order. Ranges that
overlap or touch become one. -/
def joinFrom (r : CodeRange) : List CodeRange → List CodeRange
  | [] => [r]
  | s :: rest =>
    if s.first ≤ r.last + 1 then joinFrom ⟨r.first, max r.last s.last⟩ rest
    else r :: joinFrom s rest

/-- Ranges in increasing order with gaps between them. -/
def join : List CodeRange → List CodeRange
  | [] => []
  | r :: rest => joinFrom r rest

/-- Whether a range does not start behind another one. -/
def startsFirst (r s : CodeRange) : Bool :=
  r.first ≤ s.first

/-- Ranges in any order as increasing ranges with gaps between them. -/
def arrange (rs : List CodeRange) : List CodeRange :=
  join (rs.mergeSort startsFirst)

/-- The members of two sets. -/
def joinBoth (left right : List CodeRange) : List CodeRange :=
  join (List.merge left right startsFirst)

/-- What two sets have in common. -/
def meet (left right : List CodeRange) : List CodeRange :=
  left.flatMap fun r => right.filterMap fun s =>
    let first := max r.first s.first
    let last := min r.last s.last
    if first ≤ last then some ⟨first, last⟩ else none

/-- The code points from `start` on that lie in none of the ranges. -/
def gapsFrom (start : Nat) : List CodeRange → List CodeRange
  | [] => if start ≤ 0x10ffff then [⟨start, 0x10ffff⟩] else []
  | r :: rest =>
    let gaps := gapsFrom (r.last + 1) rest
    if start < r.first then ⟨start, r.first - 1⟩ :: gaps else gaps

/-- A range without ends among the surrogates, which are no characters. -/
def shrink? (r : CodeRange) : Option CodeRange :=
  let isSurrogate (code : Nat) : Bool := 0xd800 ≤ code && code ≤ 0xdfff
  let first := if isSurrogate r.first then 0xe000 else r.first
  let last := if isSurrogate r.last then 0xd7ff else r.last
  if first ≤ last then some ⟨first, last⟩ else none

/-- The characters that lie in none of the ranges. -/
def gaps (rs : List CodeRange) : List CodeRange :=
  (gapsFrom 0 rs).filterMap shrink?

/-- The members of one set that do not belong to another one. -/
def without (left right : List CodeRange) : List CodeRange :=
  meet left (gaps right)

/-- The ranges of a stride. -/
def strideRanges (s : CodeStride) : List CodeRange :=
  if s.step = 1 then [⟨s.first, s.last⟩]
  else (List.range' s.first ((s.last - s.first) / s.step + 1) s.step).map fun code => ⟨code, code⟩

/-- The code points that are not the smallest of their folding class, each with the smallest one. -/
def foldPairs : List (Nat × Nat) :=
  foldShifts.flatMap fun s =>
    (strideRanges s.stride).flatMap fun r =>
      (List.range' r.first (r.last - r.first + 1)).map fun code =>
        (code, ((code : Int) + s.distance).toNat)

/-- A set closed under case-insensitive matching. The smallest members of folding classes are added
first, and then all others. -/
def foldRanges (rs : List CodeRange) : List CodeRange :=
  let smallest := foldPairs.filterMap fun (code, least) =>
    if CodeRange.anyContains rs code then some (⟨least, least⟩ : CodeRange) else none
  let rs := arrange (rs ++ smallest)
  let others := foldPairs.filterMap fun (code, least) =>
    if CodeRange.anyContains rs least then some (⟨code, code⟩ : CodeRange) else none
  arrange (rs ++ others)

/-- A set closed under exchanging the cases of ASCII letters. -/
def asciiFoldRanges (rs : List CodeRange) : List CodeRange :=
  let moved (first last : Nat) (shift : Nat → Nat) : List CodeRange :=
    (meet rs [⟨first, last⟩]).map fun r => ⟨shift r.first, shift r.last⟩
  arrange (rs ++ moved 0x41 0x5a (· + 0x20) ++ moved 0x61 0x7a (· - 0x20))

/-- The members of a set as increasing ranges with gaps between them. -/
def toRanges : CharSet → List CodeRange
  | .ranges rs => arrange rs
  | .strides ss => arrange (ss.flatMap strideRanges)
  | .union left right => joinBoth left.toRanges right.toRanges
  | .intersection left right => meet left.toRanges right.toRanges
  | .difference left right => without left.toRanges right.toRanges
  | .symmetricDifference left right =>
    let l := left.toRanges
    let r := right.toRanges
    without (joinBoth l r) (meet l r)
  | .complement inner => gaps inner.toRanges
  | .folded inner => foldRanges inner.toRanges
  | .asciiFolded inner => asciiFoldRanges inner.toRanges

/-- Whether two sets have the same members. -/
def sameMembers (left right : CharSet) : Bool :=
  left == right || left.toRanges == right.toRanges

end CharSet

end Peg.Regex
