import Peg.Snippet.Mark

/-!
# Placement of labels

Marks are drawn on the row below a line. The label of the rightmost mark stands behind it if there
is room, and the other labels stand on rows of their own further below.
-/

namespace Peg.Snippet

/-- Whether the columns of two marks overlap, when those of the first are extended to the right. -/
def overlap (a b : Mark) (padding : Nat) : Bool :=
  (b.start ≤ a.start && a.start < b.stop) || (a.start ≤ b.start && b.start < a.stop + padding)

/-- Whether the label of a mark has to leave the row of the marks because a mark further to the left
reaches below it. A mark without a label at the same characters is no obstacle. -/
def isCovered (mark : Mark) (others : List Mark) : Bool :=
  mark.hasLabel && others.any fun other =>
    overlap other mark 0 &&
      !(other.startChar = mark.startChar && other.stopChar = mark.stopChar && !other.hasLabel)

/-- The columns that the label of a mark needs behind it. -/
def labelPadding (m : Mark) : Nat :=
  (m.label.map fun label => label.utf8ByteSize + 2).getD 0

/-- Whether a mark and one further to the left cannot have their labels on the same row. -/
def conflicts (row : Nat) (mark other : Mark) : Bool :=
  let overlaps := overlap other mark (labelPadding other)
  (overlaps && mark.hasLabel && other.hasLabel) || (mark.isEnd && other.hasLabel) ||
    (mark.hasLabel && other.isEnd) || (mark.isEnd && other.isEnd) ||
    (overlaps && other.stopChar ≤ mark.stopChar && other.hasLabel && row == 0)

/-- A mark with the row of its label, the row of the marks being number zero. -/
structure Placed where
  row : Nat
  mark : Mark
  deriving DecidableEq, Repr

/-- Place marks that are given from right to left, and count the rows that are needed. -/
def placeFrom (row : Nat) : List Mark → List Placed × Nat
  | [] => ([], row)
  | mark :: others =>
    let row := if row = 0 && isCovered mark others then 1 else row
    let next := if others.any (conflicts row mark) then row + 1 else row
    let (placed, rows) := placeFrom next others
    (⟨row, mark⟩ :: placed, rows)

/-- The placement of marks, and the number of the last row that they need. -/
structure Placement where
  placed : List Placed
  lastRow : Nat
  deriving Repr

/-- Place the marks of a line. If all of them open parts over several lines, the order of the rows
is reversed, so that their strokes do not cross. -/
def place (marks : List Mark) : Placement :=
  let (placed, rows) := placeFrom 0 (marks.mergeSort fun a b => b.startChar ≤ a.startChar)
  let lastRow := if rows = 0 then 0 else rows + 1
  if placed.all fun p => p.mark.shape matches .opens _ then
    let top := (placed.map Placed.row).max?.getD 0
    ⟨placed.map fun p => { p with row := top - p.row }, lastRow - 1⟩
  else ⟨placed, lastRow⟩

end Peg.Snippet
